import ListingCrawl.Proofs.Record.Canonical

/-! The verdict of the contract, said of the values in a record. Reading a structure asks each of its fields
for its type by itself, whether it is written as an object or as the list of its fields; so a record is
accepted if and only if what it has under each key of the contract keeps the rule of that key. Other keys do
not count. The price and the images may be any values; but in a value, an object that begins with the reserved
key is decoded as the number that it holds, and if it holds none, the value cannot be decoded. -/

namespace ListingCrawl

/-! ### Values -/

namespace Json

/-- In no object of the value a key stands twice. -/
inductive DistinctKeys : Json → Prop
  | null : DistinctKeys .null
  | bool (b : Bool) : DistinctKeys (.bool b)
  | number (token : String) : DistinctKeys (.number token)
  | string (text : String) : DistinctKeys (.string text)
  | array {items : List Json} : (∀ v ∈ items, DistinctKeys v) → DistinctKeys (.array items)
  | object {fs : Fields} :
      fs.keys.Nodup → (∀ e ∈ fs, DistinctKeys e.2) → DistinctKeys (.object fs)

theorem DistinctKeys.nodup {fs : Fields} (h : DistinctKeys (.object fs)) : fs.keys.Nodup := by
  cases h with
  | object hnodup _ => exact hnodup

theorem DistinctKeys.get? {fs : Fields} (h : DistinctKeys (.object fs)) {key : String} {v : Json}
    (hv : fs.get? key = some v) : DistinctKeys v := by
  cases h with
  | object _ hvalues => exact hvalues _ (Fields.mem_of_get? hv)

theorem DistinctKeys.item {items : List Json} (h : DistinctKeys (.array items)) {v : Json}
    (hv : v ∈ items) : DistinctKeys v := by
  cases h with
  | array hitems => exact hitems v hv

/-- A structure with these fields is written as an object, or as the list of its first fields. -/
inductive Writes (names : List String) : Json → Fields → Prop
  | object (fs : Fields) : Writes names (.object fs) fs
  | array {items : List Json} : items.length ≤ names.length →
      Writes names (.array items) (names.zip items)

def IsString (v : Json) : Prop := ∃ s, v = .string s

end Json

/-! ### Structures -/

namespace Json.Shape

variable {s : Shape} {name : String} {checks : List (String × Check)} {fs : Fields}

/-- Under the name of each field there is nothing, or a value of its type. -/
def Suits (s : Shape) (fs : Fields) : Prop :=
  ∀ f ∈ s.fields, ∀ v, fs.get? f.name = some v → f.check v = .ok ()

theorem checkMember_of_mem (hnames : (s.fields.map (·.name)).Nodup) {f : Field} (hf : f ∈ s.fields)
    (v : Json) : s.checkMember (f.name, v) = f.check v := by
  have hfind : s.fields.find? (·.name == f.name) = some f := by
    obtain ⟨name, fields⟩ := s
    simp only at hnames hf ⊢
    induction fields with
    | nil => cases hf
    | cons g fields ih =>
      rw [List.map_cons, List.nodup_cons] at hnames
      obtain rfl | hf := List.mem_cons.mp hf
      · exact List.find?_cons_of_pos (beq_self_eq_true f.name)
      · have hne : g.name ≠ f.name := fun h => hnames.1 (h ▸ List.mem_map_of_mem hf)
        rw [List.find?_cons_of_neg (by simpa using hne), ih hnames.2 hf]
  rw [checkMember, hfind]

/-- Where no key stands twice, the members are checked key by key. -/
theorem forall_checkMember_iff (hnames : (s.fields.map (·.name)).Nodup) (hkeys : fs.keys.Nodup) :
    (∀ m ∈ fs, s.checkMember m = .ok ()) ↔ s.Suits fs := by
  constructor
  · intro h f hf v hv
    rw [← checkMember_of_mem hnames hf v]
    exact h _ (Fields.mem_of_get? hv)
  · rintro h ⟨key, v⟩ hm
    by_cases hkey : key ∈ s.fields.map (·.name)
    · obtain ⟨f, hf, rfl⟩ := List.mem_map.mp hkey
      rw [checkMember_of_mem hnames hf]
      exact h f hf v (Fields.get?_of_mem hkeys hm)
    · exact checkMember_of_not_mem hkey

/-- Items are checked by their place as they are by their name. -/
theorem forall_zip_iff {fields : List Field} (hnames : (fields.map (·.name)).Nodup) (items : List Json) :
    (∀ p ∈ fields.zip items, p.1.check p.2 = .ok ()) ↔
      ∀ f ∈ fields, ∀ v, Fields.get? ((fields.map (·.name)).zip items) f.name = some v →
        f.check v = .ok () := by
  induction fields generalizing items with
  | nil => simp
  | cons f fields ih =>
    cases items with
    | nil => simp [Fields.get?]
    | cons item items =>
      rw [List.map_cons, List.nodup_cons] at hnames
      have hothers : ∀ g ∈ fields, f.name ≠ g.name := fun g hg h => hnames.1 (h ▸ List.mem_map_of_mem hg)
      simp only [List.map_cons, List.zip_cons_cons, List.forall_mem_cons, Fields.get?_cons, ↓reduceIte,
        Option.some.injEq, forall_eq', ih hnames.2 items]
      refine and_congr_right fun _ => forall₂_congr fun g hg => ?_
      rw [if_neg (hothers g hg)]

theorem names_optionalFields (name : String) (checks : List (String × Check)) :
    (optionalFields name checks).fields.map (·.name) = checks.map (·.1) := by
  simp [optionalFields]

/-- A structure is read if it is written in one of the two ways and each of its fields has its type. -/
theorem read_optionalFields {v : Json} (hnames : (checks.map (·.1)).Nodup) (hkeys : DistinctKeys v) :
    (optionalFields name checks).read v = .ok fs ↔
      Writes (checks.map (·.1)) v fs ∧ (optionalFields name checks).Suits fs := by
  rw [← names_optionalFields name] at hnames ⊢
  cases v with
  | object members =>
    rw [read, readObject_optionalFields, forall_checkMember_iff hnames hkeys.nodup]
    constructor
    · rintro ⟨hsuits, rfl⟩
      exact ⟨.object members, hsuits⟩
    · rintro ⟨⟨⟩, hsuits⟩
      exact ⟨hsuits, rfl⟩
  | array items =>
    have hnone : ((optionalFields name checks).fields.drop items.length).findIdx? (·.required) = none := by
      rw [List.findIdx?_eq_none_iff]
      intro f hf
      obtain ⟨c, -, rfl⟩ := List.mem_map.mp (List.mem_of_mem_drop hf)
      rfl
    rw [read, readArray, bind_eq_ok, hnone, Suits]
    constructor
    · rintro ⟨⟨⟩, hchecks, hlength⟩
      dsimp only at hlength
      split at hlength
      · next hle =>
        cases hlength
        refine ⟨.array ?_, (forall_zip_iff hnames items).mp ?_⟩
        · rwa [List.length_map]
        · exact forM_eq_ok.mp hchecks
      · cases hlength
    · rintro ⟨hwrites, hsuits⟩
      cases hwrites with
      | array hle =>
        rw [List.length_map] at hle
        exact ⟨(), forM_eq_ok.mpr ((forall_zip_iff hnames items).mpr hsuits), if_pos hle⟩
  | _ =>
    constructor
    · intro h
      cases h
    · rintro ⟨⟨⟩, -⟩

end Json.Shape

/-! ### Rules -/

namespace Fields

variable {fs : Fields} {key : String} {P Q : Json → Prop}

/-- A text that is not blank. -/
def HasText (fs : Fields) (key : String) : Prop :=
  ∃ s, fs.get? key = some (.string s) ∧ Text.isBlankText s = false

/-- Nothing, null, or a value with the property. -/
def Admits (fs : Fields) (key : String) (P : Json → Prop) : Prop :=
  ∀ v, fs.get? key = some v → v = .null ∨ P v

theorem Admits.imp (h : fs.Admits key P) (hPQ : ∀ v, P v → Q v) : fs.Admits key Q :=
  fun v hv => (h v hv).imp_right (hPQ v)

theorem HasText.admits (h : fs.HasText key) : fs.Admits key Json.IsString := by
  obtain ⟨s, hs, -⟩ := h
  intro v hv
  exact .inr ⟨s, Option.some.inj (hv.symm.trans hs)⟩

theorem hasText_iff : fs.HasText key ↔ Listing.isMissing (fs.text? key) = false := by
  simp only [HasText, Listing.isMissing_eq_false, text?_eq_some_iff]

end Fields

/-! ### Variations -/

namespace Variation

variable {fs : Fields}

def names : List String :=
  ["title", "position", "image", "images"]

/-- What stands under the names of a variation's fields. -/
structure KeepsRules (fs : Fields) : Prop where
  title : fs.HasText "title"
  position : fs.Admits "position" fun v =>
    ∃ token n, v = .number token ∧ Json.int64? token = some n ∧ 0 ≤ n
  image : fs.Admits "image" Json.IsString
  images : fs.Admits "images" fun v => ∃ items, v = .array items ∧ ∀ item ∈ items, item.IsString

theorem suits_iff : shape.Suits fs ↔ fs.Admits "title" Json.IsString ∧
    (fs.Admits "position" fun v => ∃ token n, v = .number token ∧ Json.int64? token = some n) ∧
    fs.Admits "image" Json.IsString ∧
    fs.Admits "images" fun v => ∃ items, v = .array items ∧ ∀ item ∈ items, item.IsString := by
  simp only [Json.Shape.Suits, shape, Json.Shape.optionalFields, List.map_cons, List.map_nil,
    List.forall_mem_cons, List.not_mem_nil, IsEmpty.forall_iff, implies_true, and_true,
    Json.Check.optional_eq_ok, Json.Check.text_eq_ok, Json.Check.integer_eq_ok, Json.Check.list_eq_ok,
    Fields.Admits, Json.IsString]

/-- The position that counts is the number under its name. -/
theorem forall_position_ofFields {P : Int → Prop} : (∀ n, (ofFields fs).position = some n → P n) ↔
    ∀ token n, fs.get? "position" = some (.number token) → Json.int64? token = some n → P n := by
  simp only [ofFields]
  rcases fs.get? "position" with _ | (_ | _ | token | _ | _ | _)
  case some.number =>
    constructor
    · rintro h _ n ⟨⟩ hn
      exact h n hn
    · exact fun h n hn => h token n rfl hn
  all_goals simp

/-- The fields have their types and make up a sound variation if and only if they keep the rules. -/
theorem keepsRules_iff : KeepsRules fs ↔ shape.Suits fs ∧ (ofFields fs).Sound := by
  rw [suits_iff, Sound, forall_position_ofFields]
  constructor
  · rintro ⟨htitle, hposition, himage, himages⟩
    refine ⟨⟨htitle.admits, hposition.imp fun v hv => ?_, himage, himages⟩,
      Fields.hasText_iff.mp htitle, fun token n hv hn => ?_⟩
    · obtain ⟨token, n, rfl, hn, -⟩ := hv
      exact ⟨token, n, rfl, hn⟩
    · obtain hnull | ⟨token', n', heq, hn', hle⟩ := hposition _ hv
      · cases hnull
      · cases heq
        cases hn.symm.trans hn'
        exact hle
  · rintro ⟨⟨-, hposition, himage, himages⟩, htitle, hle⟩
    refine ⟨Fields.hasText_iff.mpr htitle, fun v hv => ?_, himage, himages⟩
    refine (hposition v hv).imp_right ?_
    rintro ⟨token, n, rfl, hn⟩
    exact ⟨token, n, rfl, hn, hle token n hv hn⟩

/-- What reads as a sound variation. -/
theorem read_sound_iff {item : Json} (hkeys : item.DistinctKeys) :
    (∃ x, read item = .ok x ∧ x.Sound) ↔ ∃ fs, Json.Writes names item fs ∧ KeepsRules fs := by
  have hread : ∀ fs, shape.read item = .ok fs ↔ Json.Writes names item fs ∧ shape.Suits fs :=
    fun fs => Json.Shape.read_optionalFields (by decide) hkeys
  constructor
  · rintro ⟨x, hx, hsound⟩
    obtain ⟨fs, hfs, rfl⟩ := read_eq_ok.mp hx
    obtain ⟨hwrites, hsuits⟩ := (hread fs).mp hfs
    exact ⟨fs, hwrites, keepsRules_iff.mpr ⟨hsuits, hsound⟩⟩
  · rintro ⟨fs, hwrites, hrules⟩
    obtain ⟨hsuits, hsound⟩ := keepsRules_iff.mp hrules
    exact ⟨_, read_eq_ok.mpr ⟨fs, (hread fs).mpr ⟨hwrites, hsuits⟩, rfl⟩, hsound⟩

end Variation

/-! ### Records -/

theorem Status.isSome_ofName?_iff {s : String} :
    (ofName? s).isSome = true ↔ s ∈ ["ok", "needs_manual", "error"] := by
  simp only [ofName?, List.find?_isSome, List.mem_cons, List.not_mem_nil, or_false, exists_eq_or_imp,
    exists_eq_left, beq_iff_eq, name, @eq_comm _ _ s]

namespace Listing

theorem suits_iff {fs : Fields} : shape.Suits fs ↔
    (∀ key ∈ ["url", "status", "captured_at"] ++ Record.textKeys, fs.Admits key Json.IsString) ∧
    (∀ v, fs.get? "price" = some v → v.WellHeld) ∧
    (fs.Admits "images" fun v => ∃ items, v = .array items ∧ ∀ item ∈ items, item.WellHeld) ∧
    fs.Admits "variations" fun v => ∃ items, v = .array items ∧
      ∀ item ∈ items, ∃ x, Variation.read item = .ok x := by
  simp only [Json.Shape.Suits, shape, Json.Shape.optionalFields, List.map_cons, List.map_nil,
    List.forall_mem_cons, List.not_mem_nil, IsEmpty.forall_iff, implies_true, and_true,
    Json.Check.optional_eq_ok, Json.Check.text_eq_ok, Json.Check.list_eq_ok, Json.Check.value_eq_ok,
    Variation.check_eq_ok, Fields.Admits, Json.IsString, Record.textKeys, List.cons_append,
    List.nil_append, and_assoc]

end Listing

namespace Record

/-- What a record has to have under each key of the contract. -/
structure KeepsRules (r : Record) : Prop where
  url : r.fields.HasText "url"
  status : ∃ s, r.get? "status" = some (.string s) ∧ Text.trim s ∈ ["ok", "needs_manual", "error"]
  capturedAt : ∃ s, r.get? "captured_at" = some (.string s) ∧ Time.isRfc3339 (Text.trim s) = true
  notes : r.status? = some "needs_manual" → r.fields.HasText "notes"
  error : r.status? = some "error" → r.fields.HasText "error"
  text : ∀ key ∈ textKeys, r.fields.Admits key Json.IsString
  price : r.fields.Admits "price" fun v => (∃ token, v = .number token) ∨
    (∃ s, v = .string s ∧ IsNumeral (Text.trim s).toList) ∨ ∃ text, v = .held text ∧ Json.IsNumberText text
  images : r.fields.Admits "images" fun v => ∃ items, v = .array items ∧ ∀ item ∈ items, item.WellHeld
  variations : r.fields.Admits "variations" fun v => ∃ items, v = .array items ∧
    ∀ item ∈ items, ∃ fs, Json.Writes Variation.names item fs ∧ Variation.KeepsRules fs

variable {r : Record}

theorem conforms_iff_suits (hkeys : r.fields.keys.Nodup) : r.Conforms ↔
    Listing.shape.Suits r.fields ∧ (Listing.ofFields r.fields).violations = [] := by
  have hnames : (Listing.shape.fields.map (·.name)).Nodup := by decide
  rw [← Json.Shape.forall_checkMember_iff hnames hkeys, Conforms]
  simp only [validate_eq_ok]
  constructor
  · rintro ⟨l, hmembers, rfl, hviolations⟩
    exact ⟨hmembers, hviolations⟩
  · rintro ⟨hmembers, hviolations⟩
    exact ⟨_, hmembers, rfl, hviolations⟩

/-- The status of a listing is that of the record, if it is one. -/
theorem statusText_ofFields {name : String} (hname : name ≠ "") :
    (Listing.ofFields r.fields).statusText = name ↔ r.status? = some name := by
  have htrim : Text.trim "" = "" := by decide
  have hstatus : (Listing.ofFields r.fields).statusText = Text.trim ((r.text? "status").getD "") := rfl
  rw [hstatus, status?]
  cases r.text? "status" with
  | none => simp [htrim, hname.symm]
  | some s => simp

theorem KeepsRules.settles_price (h : r.KeepsRules) :
    ∀ v, r.get? "price" = some v → ∃ w, v.settle = .ok w ∧ Listing.isPrice w = true := by
  intro v hv
  refine Listing.exists_settle_isPrice_iff.mpr ((h.price v hv).imp_right (Or.imp_right (Or.imp_left ?_)))
  rintro ⟨s, rfl, hs⟩
  exact ⟨s, rfl, isNumericText_iff.mpr hs⟩

/-- Values that keep the rules have the types of the contract. -/
theorem KeepsRules.suits (h : r.KeepsRules) (hkeys : r.toJson.DistinctKeys) :
    Listing.shape.Suits r.fields := by
  refine Listing.suits_iff.mpr
    ⟨List.forall_mem_append.mpr ⟨?_, h.text⟩, fun v hv => ?_, h.images, fun v hv => ?_⟩
  · obtain ⟨status, hstatus, -⟩ := h.status
    obtain ⟨time, htime, -⟩ := h.capturedAt
    simp only [List.forall_mem_cons, List.not_mem_nil, IsEmpty.forall_iff, implies_true, and_true]
    exact ⟨h.url.admits, fun v hv => .inr ⟨status, Option.some.inj (hv.symm.trans hstatus)⟩,
      fun v hv => .inr ⟨time, Option.some.inj (hv.symm.trans htime)⟩⟩
  · obtain ⟨w, hw, -⟩ := h.settles_price v hv
    exact Json.exists_settle_iff.mp ⟨w, hw⟩
  · refine (h.variations v hv).imp_right ?_
    rintro ⟨items, rfl, hitems⟩
    refine ⟨items, rfl, fun item hitem => ?_⟩
    obtain ⟨x, hx, -⟩ := (Variation.read_sound_iff ((hkeys.get? hv).item hitem)).mpr (hitems item hitem)
    exact ⟨x, hx⟩

theorem KeepsRules.violations (h : r.KeepsRules) (hkeys : r.toJson.DistinctKeys) :
    (Listing.ofFields r.fields).violations = [] := by
  obtain ⟨status, hstatus, hname⟩ := h.status
  obtain ⟨time, htime, hrfc⟩ := h.capturedAt
  refine Listing.violations_eq_nil.mpr ⟨Fields.hasText_iff.mp h.url, ?_, ?_, fun hmanual => ?_,
    fun herror => ?_, Listing.forall_price_ofFields.mpr fun v hv => ?_, ?_⟩
  · have htext : (Listing.ofFields r.fields).statusText = Text.trim status := by
      simp only [Listing.ofFields, Listing.statusText]
      rw [Fields.text?_eq_some_iff.mpr hstatus, Option.getD_some]
    rw [htext]
    exact Status.isSome_ofName?_iff.mpr hname
  · -- a time is never a blank text
    have hblank : Text.isBlankText time = false := by
      by_contra hblank
      rw [Bool.not_eq_false, Text.isBlankText, beq_iff_eq] at hblank
      rw [hblank] at hrfc
      exact absurd hrfc (by decide)
    refine ⟨Text.trim time, ?_, hrfc⟩
    simp only [Listing.ofFields]
    rw [Fields.text?_eq_some_iff.mpr htime, Option.bind_some, Text.trimmed?_eq_some_iff]
    exact ⟨hblank, rfl⟩
  · exact Fields.hasText_iff.mp (h.notes ((statusText_ofFields (by decide)).mp hmanual))
  · exact Fields.hasText_iff.mp (h.error ((statusText_ofFields (by decide)).mp herror))
  · intro w hw
    obtain ⟨w', hw', hprice⟩ := h.settles_price v hv
    cases hw.symm.trans hw'
    exact hprice
  · rw [variations_ofFields]
    intro x hx
    obtain ⟨item, hitem, hread⟩ := List.mem_filterMap.mp hx
    unfold variationItems at hitem
    split at hitem
    · next items hget =>
      obtain hnull | ⟨_, ⟨⟩, hitems⟩ := h.variations _ hget
      · cases hnull
      · obtain ⟨y, hy, hsound⟩ :=
          (Variation.read_sound_iff ((hkeys.get? hget).item hitem)).mpr (hitems item hitem)
        rw [hy] at hread
        cases hread
        exact hsound
    · cases hitem

/-- A record keeps the contract if and only if it keeps the rule of each key. -/
theorem conforms_iff_keepsRules (hkeys : r.toJson.DistinctKeys) : r.Conforms ↔ r.KeepsRules := by
  have hitems : ∀ items, r.get? "variations" = some (.array items) → ∀ item ∈ items,
      item.DistinctKeys := fun items hget item hitem => (hkeys.get? hget).item hitem
  constructor
  · intro h
    have hmeets := h.meets
    obtain ⟨-, hviolations⟩ := (conforms_iff_suits hkeys.nodup).mp h
    obtain ⟨-, -, -, hnotes, herror, -, -⟩ := Listing.violations_eq_nil.mp hviolations
    constructor
    case url => exact hmeets.url
    case status =>
      obtain ⟨s, hs, hname⟩ := hmeets.status
      exact ⟨s, hs, Status.isSome_ofName?_iff.mp hname⟩
    case capturedAt => exact hmeets.capturedAt
    case notes =>
      intro hstatus
      exact Fields.hasText_iff.mpr (hnotes ((statusText_ofFields (by decide)).mpr hstatus))
    case error =>
      intro hstatus
      exact Fields.hasText_iff.mpr (herror ((statusText_ofFields (by decide)).mpr hstatus))
    case text => exact hmeets.text
    case price =>
      intro v hv
      refine (hmeets.price v hv).imp_right (Or.imp_right (Or.imp_left ?_))
      rintro ⟨s, rfl, hs⟩
      exact ⟨s, rfl, isNumericText_iff.mp hs⟩
    case images => exact hmeets.images
    case variations =>
      intro v hv
      refine (hmeets.variations v hv).imp_right ?_
      rintro ⟨items, rfl, hread⟩
      exact ⟨items, rfl, fun item hitem =>
        (Variation.read_sound_iff (hitems items hv item hitem)).mp (hread item hitem)⟩
  · intro h
    exact (conforms_iff_suits hkeys.nodup).mpr ⟨h.suits hkeys, h.violations hkeys⟩

/-- Records with the same values under the keys of the contract have the same verdict. -/
theorem conforms_congr {r' : Record} (hkeys : r.fields.keys.Nodup) (hkeys' : r'.fields.keys.Nodup)
    (h : ∀ key ∈ Listing.keys, r'.get? key = r.get? key) : r'.Conforms ↔ r.Conforms := by
  have hsuits : Listing.shape.Suits r'.fields ↔ Listing.shape.Suits r.fields := by
    refine forall₂_congr fun f hf => ?_
    have hget : r'.fields.get? f.name = r.fields.get? f.name := h f.name (List.mem_map_of_mem hf)
    rw [hget]
  rw [conforms_iff_suits hkeys, conforms_iff_suits hkeys', hsuits, Listing.ofFields_congr h]

/-- A record keeps the contract if and only if it keeps the rule of each key, and so whatever is put under
another key or removed from there does not count. -/
theorem conforms_iff (hkeys : r.toJson.DistinctKeys) : (r.Conforms ↔ r.KeepsRules) ∧
    ∀ key ∉ Listing.keys, ∀ v,
      ((r.insert key v).Conforms ↔ r.Conforms) ∧ ((r.erase key).Conforms ↔ r.Conforms) := by
  refine ⟨conforms_iff_keepsRules hkeys, fun key hkey v => ?_⟩
  have hne : ∀ other ∈ Listing.keys, other ≠ key := fun other hother heq => hkey (heq ▸ hother)
  constructor
  · exact conforms_congr hkeys.nodup (Fields.nodup_keys_insert hkeys.nodup)
      fun other hother => Fields.get?_insert_of_ne (hne other hother)
  · exact conforms_congr hkeys.nodup (hkeys.nodup.sublist (List.filter_sublist.map _))
      fun other hother => Fields.get?_erase_of_ne (hne other hother)

/-- A failed job with a variation in each of the two ways to write one, and a key of its own. -/
def annotated : Record :=
  ⟨[("url", .string "page"), ("status", .string " error "), ("error", .string "blocked"),
    ("captured_at", .string "2026-01-01T00:00:00Z"), ("price", .string " 12.50 "), ("images", .null),
    ("variations", .array [.object [("title", .string "Red"), ("position", .number "1")],
      .array [.string "Blue", .null]]), ("run_id", .bool true)]⟩

theorem conforms_iff_annotated : annotated.toJson.DistinctKeys ∧ annotated.KeepsRules ∧
    (annotated.erase "run_id").Conforms := by
  have hkeys : annotated.toJson.DistinctKeys := by
    have hred : Json.DistinctKeys (.object [("title", .string "Red"), ("position", .number "1")]) :=
      .object (by decide) (List.forall_iff_forall_mem.mp ⟨.string _, .number _⟩)
    have hblue : Json.DistinctKeys (.array [.string "Blue", .null]) :=
      .array (List.forall_iff_forall_mem.mp ⟨.string _, .null⟩)
    exact .object (by decide) (List.forall_iff_forall_mem.mp ⟨.string _, .string _, .string _, .string _,
      .string _, .null, .array (List.forall_iff_forall_mem.mp ⟨hred, hblue⟩), .bool _⟩)
  have hconforms : annotated.Conforms := ⟨Listing.ofFields annotated.fields, by decide +kernel⟩
  obtain ⟨hverdict, hothers⟩ := conforms_iff hkeys
  exact ⟨hkeys, hverdict.mp hconforms, (hothers "run_id" (by decide) .null).2.mpr hconforms⟩

/-- A record with this price and these images, where all else keeps the contract. -/
def priced (price images : Json) : Record :=
  ⟨[("url", .string "page"), ("status", .string "ok"), ("captured_at", .string "2026-01-01T00:00:00Z"),
    ("price", price), ("images", images)]⟩

/-- A price that is neither a number nor a text is accepted if it holds a number, and of two lists of images
the one that has to hold a number and does not is refused. -/
theorem conforms_held :
    ((priced (.held "5") .null).Conforms ∧ ∃ fs, (priced (.held "5") .null).get? "price" = some (.object fs)) ∧
    (priced .null (.array [.object [("src", .string "x")]])).Conforms ∧
      ¬(priced .null (.array [.held "x"])).Conforms := by
  refine ⟨⟨⟨Listing.ofFields (priced (.held "5") .null).fields, by decide +kernel⟩, _, rfl⟩,
    ⟨Listing.ofFields (priced .null (.array [.object [("src", .string "x")]])).fields, by decide +kernel⟩, ?_⟩
  rintro ⟨l, hl⟩
  have hrefused : (priced .null (.array [.held "x"])).validate =
      .error [.shape (.badNumeral .invalidNumber)] := by
    decide +kernel
  cases hl.symm.trans hrefused

end Record

end ListingCrawl
