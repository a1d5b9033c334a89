import ListingCrawl.Json.Reader
import ListingCrawl.Prompt.Schema
import ListingCrawl.Proofs.Job.Acceptance
import ListingCrawl.Proofs.Record.AsRead
import ListingCrawl.Proofs.Record.Conformance
import ListingCrawl.Proofs.Schema.Faults

/-! The output contract has two descriptions: the schema that agents are shown, and the check that their
answers have to pass. The check is as strict as the schema but for a few things on which it is lenient on
purpose: blanks around the status, null for a text that may be missing, and a variation without a position.
An accepted answer whose variations are objects has no other fault. A variation that is a list of its fields
is set apart here. -/

namespace ListingCrawl.Schema

/-! ### The schema of a record -/

def text : Json := .object [("type", .string "string")]

/-- A text with a word on what it is for. -/
def described (keyword word : String) : Json :=
  .object [("type", .string "string"), (keyword, .string word)]

def list (items : Json) : Json := .object [("type", .string "array"), ("items", items)]

def structured (required : List String) (properties : Fields) : Json :=
  .object [("type", .string "object"), ("required", .array (required.map .string)),
    ("properties", .object properties)]

def status : Json :=
  .object [("enum", .array [.string "ok", .string "needs_manual", .string "error"])]

def pricePattern : String := "^[0-9]+(\\.[0-9]+)?$"

def price : Json :=
  .object [("type", .array [.string "number", .string "string"]), ("pattern", .string pricePattern)]

def position : Json := .object [("type", .string "integer"), ("minimum", .number "0")]

def variationProperties : Fields :=
  [("title", text), ("position", position), ("image", text), ("images", list text)]

def properties : Fields :=
  [("url", text), ("status", status), ("captured_at", described "format" "date-time"),
    ("notes", described "description" "required when status=needs_manual"),
    ("error", described "description" "required when status=error"), ("title", text),
    ("description", text), ("currency", text), ("price", price), ("images", list text),
    ("variations", list (structured ["title", "position"] variationProperties))]

def contract : Json := structured ["url", "status", "captured_at"] properties

/-- The text that agents are shown reads as this schema. -/
theorem ofText?_schema : Json.ofText? Prompt.schema = some contract := by
  rw [Json.ofText?, Octets.ofText, Prompt.schema, String.toList_intercalate]
  -- evaluating the text character by character is what takes time, so its lines are opened first
  simp only [Prompt.schemaLines, List.map_cons, List.map_nil, String.reduceToList]
  decide +kernel

/-! ### Faults by form -/

variable {f : Fault}

/-- What a text misses of the schema, and what null does. -/
structure AsksText (schema : Json) : Prop where
  string : ∀ s, faults schema (.string s) = []
  null : faults schema .null = [⟨[], "type", some .null⟩]

theorem AsksText.not_mem {schema : Json} (h : AsksText schema) (s : String) :
    f ∉ faults schema (.string s) := by
  rw [h.string]
  exact List.not_mem_nil

theorem asksText_text : AsksText text := ⟨fun _ => rfl, rfl⟩

theorem asksText_described {keyword : String} (word : String)
    (h : keyword ∈ ["format", "description"]) : AsksText (described keyword word) := by
  simp only [List.mem_cons, List.not_mem_nil, or_false] at h
  obtain rfl | rfl := h
  · exact ⟨fun _ => rfl, rfl⟩
  · exact ⟨fun _ => rfl, rfl⟩

theorem mem_propertyFaults {properties : Fields} {v : Json} : f ∈ propertyFaults properties v ↔
    ∃ p ∈ properties, ∃ w, v.get? p.1 = some w ∧ ∃ g ∈ faults p.2 w, g.within (.member p.1) = f := by
  induction properties with
  | nil => simp [propertyFaults]
  | cons p properties ih =>
    obtain ⟨key, schema⟩ := p
    rw [propertyFaults, List.mem_append, ih]
    simp [Option.mem_toList]

theorem mem_faults_structured {required : List String} {properties fs : Fields} :
    f ∈ faults (structured required properties) (.object fs) ↔
      (∃ key ∈ required, Fields.contains fs key = false ∧ ⟨[.member key], "required", none⟩ = f) ∨
        ∃ p ∈ properties, ∃ w, Fields.get? fs p.1 = some w ∧
          ∃ g ∈ faults p.2 w, g.within (.member p.1) = f := by
  have hnames : names (.array (required.map .string)) = required := by
    rw [names, List.filterMap_map]
    exact List.filterMap_some
  have hsplit : faults (structured required properties) (.object fs) =
      missing (names (.array (required.map .string))) (.object fs) ++
        (propertyFaults properties (.object fs) ++ []) := rfl
  rw [hsplit, hnames, List.append_nil, List.mem_append, mem_propertyFaults]
  simp [missing, Json.get?, and_assoc]

theorem faults_structured_array (required : List String) (properties : Fields) (items : List Json) :
    faults (structured required properties) (.array items) = [⟨[], "type", some (.array items)⟩] := by
  have hnone : propertyFaults properties (.array items) = [] := by
    refine List.eq_nil_iff_forall_not_mem.mpr fun f hf => ?_
    obtain ⟨p, -, w, hw, -⟩ := mem_propertyFaults.mp hf
    cases hw
  have hsplit : faults (structured required properties) (.array items) =
      [⟨[], "type", some (.array items)⟩] ++ ([] ++ (propertyFaults properties (.array items) ++ [])) := rfl
  rw [hsplit, hnone]
  rfl

theorem mem_faults_list {schema : Json} {items : List Json} : f ∈ faults (list schema) (.array items) ↔
    ∃ i item, items[i]? = some item ∧ ∃ g ∈ faults schema item, g.within (.item i) = f := by
  have hsplit : faults (list schema) (.array items) =
      (items.mapIdx fun i w => (faults schema w).map (Fault.within (.item i))).flatten ++ [] := rfl
  rw [hsplit, List.append_nil]
  simp [List.mem_mapIdx, List.getElem?_eq_some_iff]

/-! ### Prices -/

/-- One or more digits. -/
def digits : RegularExpression Char :=
  between '0' '9' * (between '0' '9').star

theorem readPattern_price : readPattern pricePattern =
    some (digits * ((.char '.' * (digits * 1) + 1) * 1)) := rfl

theorem mem_digits {cs : List Char} (h : IsDigits cs) : cs ∈ digits.matches' := by
  refine mem_repeated h.1 fun c hc => ?_
  have hdigit : c.isDigit = true := h.2 c hc
  simp only [Char.isDigit, Bool.and_eq_true, decide_eq_true_eq, ge_iff_le, UInt32.le_iff_toNat_le] at hdigit
  exact mem_between hdigit.1 hdigit.2

/-- A numeric text matches the pattern of a price. -/
theorem isMatch_price {s : String} (h : isNumericText s = true) : isMatch pricePattern s = true := by
  rw [isMatch, readPattern_price, Option.any_some, RegularExpression.rmatch_iff_matches']
  simp only [RegularExpression.matches'_mul, RegularExpression.matches'_add,
    RegularExpression.matches'_epsilon, mul_one]
  obtain hdigits | ⟨whole, fraction, hs, hwhole, hfraction⟩ := isNumericText_iff.mp h
  · rw [← List.append_nil s.toList]
    exact Language.append_mem_mul (mem_digits hdigits) (.inr rfl)
  · rw [hs]
    refine Language.append_mem_mul (mem_digits hwhole) (.inl ?_)
    exact Language.append_mem_mul (a := ['.']) rfl (mem_digits hfraction)

/-! ### What an accepted answer misses -/

/-- The faults on which the check of answers is lenient. -/
inductive Lenient : Fault → Prop where
  /-- One of the statuses, with blanks around it. -/
  | status {s : String} (h : (Status.ofName? (Text.trim s)).isSome = true) :
    Lenient ⟨[.member "status"], "enum", some (.string s)⟩
  | null {key : String} (h : key ∈ Record.textKeys) : Lenient ⟨[.member key], "type", some .null⟩
  | noPosition (i : Nat) :
    Lenient ⟨[.member "variations", .item i, .member "position"], "required", none⟩
  | nullPosition (i : Nat) :
    Lenient ⟨[.member "variations", .item i, .member "position"], "type", some .null⟩

/-- The fault of a variation that is written as a list. -/
def Fault.IsListed (f : Fault) : Prop :=
  ∃ i items, f = ⟨[.member "variations", .item i], "type", some (.array items)⟩

theorem faults_status_string {s : String} (hf : f ∈ faults status (.string s)) :
    f = ⟨[], "enum", some (.string s)⟩ := by
  have hsplit : faults status (.string s) =
      (if keeps "enum" (.array [.string "ok", .string "needs_manual", .string "error"]) (.string s) then []
        else [⟨[], "enum", some (.string s)⟩]) ++ [] := rfl
  rw [hsplit, List.append_nil] at hf
  split at hf
  · cases hf
  · simpa using hf

theorem faults_price_number (token : String) : faults price (.number token) = [] := rfl

theorem faults_price_string {s : String} (h : isNumericText s = true) :
    faults price (.string s) = [] := by
  have hsplit : faults price (.string s) =
      [] ++ ((if isMatch pricePattern s then [] else [⟨[], "pattern", some (.string s)⟩]) ++ []) := rfl
  rw [hsplit, isMatch_price h]
  rfl

theorem faults_position_number {token : String} {n : Int} (h : Json.int64? token = some n)
    (hn : 0 ≤ n) : faults position (.number token) = [] := by
  have hint : Json.int? token = some n := (Option.filter_eq_some_iff.mp h).1
  have hzero : Json.int? "0" = some 0 := by decide
  simp [position, faults, keywordFaults, keeps, names, isOfType, isAtLeast, hint, hzero, hn]

/-- The position of a sound variation has no fault but that it is null. -/
theorem eq_of_mem_faults_position {fs : Fields} (hfits : Variation.Fits fs)
    (hsound : (Variation.ofFields fs).Sound) {w : Json} (hw : fs.get? "position" = some w)
    (hf : f ∈ faults position w) : f = ⟨[], "type", some .null⟩ := by
  obtain rfl | ⟨token, n, rfl, hn⟩ := hfits.position w hw
  · exact List.mem_singleton.mp hf
  · have hposition : (Variation.ofFields fs).position = some n := by
      simp [Variation.ofFields, hw, hn]
    rw [faults_position_number hn (hsound.2 n hposition)] at hf
    cases hf

theorem not_mem_faults_images (images : List String) : f ∉ faults (list text) (Images.toJson images) := by
  intro hf
  obtain ⟨i, item, hitem, g, hg, -⟩ := mem_faults_list.mp hf
  obtain ⟨s, -, rfl⟩ := List.mem_map.mp (List.mem_of_getElem? hitem)
  exact asksText_text.not_mem s hg

/-- A variation that is read and sound has only faults of its position, if it is no list. -/
theorem lenient_variation {item : Json} {x : Variation} (hread : Variation.read item = .ok x)
    (hsound : x.Sound) (hnormal : Variation.normalize item = item) {g : Fault} {i : Nat}
    (hg : g ∈ faults (structured ["title", "position"] variationProperties) item)
    (hlisted : ¬((g.within (.item i)).within (.member "variations")).IsListed) :
    Lenient ((g.within (.item i)).within (.member "variations")) := by
  cases item with
  | array items =>
    rw [faults_structured_array, List.mem_singleton] at hg
    exact absurd ⟨i, items, by rw [hg]; rfl⟩ hlisted
  | object fs =>
    obtain ⟨hfits, rfl⟩ := Variation.fits_of_read hread
    obtain ⟨images, -, himages, himage⟩ := hfits.images_of_normalized (Json.object.inj hnormal)
    obtain ⟨title, hsome, -⟩ := Listing.isMissing_eq_false.mp hsound.1
    have htitle : Fields.get? fs "title" = some (.string title) := Fields.text?_eq_some_iff.mp hsome
    obtain ⟨key, hkey, habsent, rfl⟩ | ⟨p, hp, w, hw, inner, hinner, rfl⟩ := mem_faults_structured.mp hg
    · simp only [List.mem_cons, List.not_mem_nil, or_false] at hkey
      obtain rfl | rfl := hkey
      · rw [Fields.contains, htitle] at habsent
        cases habsent
      · exact .noPosition i
    · simp only [variationProperties, List.mem_cons, List.not_mem_nil, or_false] at hp
      obtain rfl | rfl | rfl | rfl := hp
      · rw [htitle] at hw
        cases hw
        exact absurd hinner (asksText_text.not_mem _)
      · rw [eq_of_mem_faults_position hfits hsound hw hinner]
        exact .nullPosition i
      · rw [himage] at hw
        obtain ⟨s, -, rfl⟩ := Option.map_eq_some_iff.mp hw
        exact absurd hinner (asksText_text.not_mem _)
      · rw [himages] at hw
        cases hw
        exact absurd hinner (not_mem_faults_images images)
  | _ => cases hread

theorem lenient_text {r : Record} (hmeets : r.Meets) {key : String} (hkey : key ∈ Record.textKeys)
    {schema : Json} (hschema : AsksText schema) {w : Json} (hw : r.get? key = some w) {g : Fault}
    (hg : g ∈ faults schema w) : Lenient (g.within (.member key)) := by
  obtain rfl | ⟨s, rfl⟩ := hmeets.text key hkey w hw
  · rw [hschema.null, List.mem_singleton] at hg
    rw [hg]
    exact .null hkey
  · exact absurd hg (hschema.not_mem s)

/-- The price of an answer does not become an object that holds a number. -/
theorem price_ne_held (now url : String) {r : Record}
    (h : ∀ v, r.get? "price" = some v → ∀ text, v ≠ .held text) :
    ∀ v, (r.normalize now url).get? "price" = some v → ∀ text, v ≠ .held text := by
  have hrule : ("price", Rule.price) ∈ Record.rules now url := by simp [Record.rules]
  have hkeeps : Rule.price.Keeps fun v => ∀ text, v ≠ .held text := by
    refine Rule.keeps_price fun s _ text heq => ?_
    cases heq
  rw [Record.get?_normalize_of_mem hrule]
  exact hkeeps.value h

theorem faults_price {r : Record} (hmeets : r.Meets) (hnormal : r.Normal) {w : Json}
    (hw : r.get? "price" = some w) (hheld : ∀ text, w ≠ .held text) : faults price w = [] := by
  obtain ⟨hnull, htrim⟩ := hnormal.price hw
  obtain rfl | ⟨token, rfl⟩ | ⟨s, rfl, hs⟩ | ⟨text, rfl, -⟩ := hmeets.price w hw
  · exact absurd rfl hnull
  · exact faults_price_number token
  · rw [htrim s rfl] at hs
    exact faults_price_string hs
  · exact absurd rfl (hheld text)

theorem not_mem_faults_imagesField {r : Record} (hmeets : r.Meets) (hnormal : r.Normal) {w : Json}
    (hw : r.get? "images" = some w) : f ∉ faults (list text) w := by
  obtain ⟨images, -, himages⟩ := hnormal.images hmeets.isField_images
  cases himages.symm.trans hw
  exact not_mem_faults_images images

theorem lenient_variations {r : Record} (hmeets : r.Meets) (hnormal : r.Normal) {w : Json}
    (hw : r.get? "variations" = some w) {g : Fault}
    (hg : g ∈ faults (list (structured ["title", "position"] variationProperties)) w)
    (hlisted : ¬(g.within (.member "variations")).IsListed) :
    Lenient (g.within (.member "variations")) := by
  obtain ⟨hnull, hnormalized⟩ := hnormal.variations hw
  obtain rfl | ⟨items, rfl, hread⟩ := hmeets.variations w hw
  · exact absurd rfl hnull
  · obtain ⟨i, item, hitem, inner, hinner, rfl⟩ := mem_faults_list.mp hg
    have hmem := List.mem_of_getElem? hitem
    obtain ⟨x, hx, hsound⟩ := hread item hmem
    exact lenient_variation hx hsound (hnormalized items rfl item hmem) hinner hlisted

/-- What is under a key of a canonical record that keeps the contract has lenient faults only, apart from
variations that are lists. -/
theorem lenient_property {r : Record} (hmeets : r.Meets) (hnormal : r.Normal)
    (hheld : ∀ v, r.get? "price" = some v → ∀ text, v ≠ .held text) {p : String × Json}
    (hp : p ∈ properties) {w : Json} (hw : r.get? p.1 = some w) {g : Fault} (hg : g ∈ faults p.2 w)
    (hlisted : ¬(g.within (.member p.1)).IsListed) : Lenient (g.within (.member p.1)) := by
  have hdate : AsksText (described "format" "date-time") := asksText_described _ (by simp)
  have hwhen : ∀ word, AsksText (described "description" word) := fun word =>
    asksText_described word (by simp)
  simp only [properties, List.mem_cons, List.not_mem_nil, or_false] at hp
  obtain rfl | rfl | rfl | rfl | rfl | rfl | rfl | rfl | rfl | rfl | rfl := hp
  · obtain ⟨s, hs, -⟩ := hmeets.url
    cases hs.symm.trans hw
    exact absurd hg (asksText_text.not_mem s)
  · obtain ⟨s, hs, hname⟩ := hmeets.status
    cases hs.symm.trans hw
    rw [faults_status_string hg]
    exact .status hname
  · obtain ⟨s, hs, -⟩ := hmeets.capturedAt
    cases hs.symm.trans hw
    exact absurd hg (hdate.not_mem s)
  · exact lenient_text hmeets (by decide) (hwhen _) hw hg
  · exact lenient_text hmeets (by decide) (hwhen _) hw hg
  · exact lenient_text hmeets (by decide) asksText_text hw hg
  · exact lenient_text hmeets (by decide) asksText_text hw hg
  · exact lenient_text hmeets (by decide) asksText_text hw hg
  · rw [faults_price hmeets hnormal hw (hheld w hw)] at hg
    cases hg
  · exact absurd hg (not_mem_faults_imagesField hmeets hnormal hw)
  · exact lenient_variations hmeets hnormal hw hg hlisted

theorem lenient_of_meets {r : Record} (hmeets : r.Meets) (hnormal : r.Normal)
    (hheld : ∀ v, r.get? "price" = some v → ∀ text, v ≠ .held text)
    (hf : f ∈ faults contract r.toJson) (hlisted : ¬f.IsListed) : Lenient f := by
  obtain ⟨key, hkey, habsent, -⟩ | ⟨p, hp, w, hw, g, hg, rfl⟩ := mem_faults_structured.mp hf
  · have hpresent : ∀ key ∈ ["url", "status", "captured_at"], Fields.contains r.fields key = true := by
      simp only [List.forall_mem_cons, List.not_mem_nil, IsEmpty.forall_iff, implies_true, and_true]
      obtain ⟨url, hurl, -⟩ := hmeets.url
      obtain ⟨status, hstatus, -⟩ := hmeets.status
      obtain ⟨time, htime, -⟩ := hmeets.capturedAt
      exact ⟨Fields.contains_of_get? hurl, Fields.contains_of_get? hstatus, Fields.contains_of_get? htime⟩
    rw [hpresent key hkey] at habsent
    cases habsent
  · exact lenient_property hmeets hnormal hheld hp hw hg hlisted

/-- Whatever is accepted as an answer conforms to the schema that agents are shown, but for faults on which
the check is lenient and for variations that are written as lists. -/
theorem acceptDirect_faults {now url raw : String} {r : Record}
    (h : Recovery.acceptDirect now url raw = .ok r) :
    ∃ schema, Json.ofText? Prompt.schema = some schema ∧
      ∀ f ∈ faults schema r.toJson, ¬f.IsListed → Lenient f := by
  obtain ⟨fields, hobject, rfl, hconforms⟩ := Recovery.acceptDirect_eq_ok.mp h
  refine ⟨contract, ofText?_schema, fun f hf hlisted => ?_⟩
  obtain ⟨hstart, -⟩ := Answer.findObject?_sound (Answer.statusObject_eq_ok.mp hobject)
  obtain ⟨-, hvalues⟩ := Json.plain_object_iff.mp hstart.asRead.2
  have hheld := price_ne_held now url (r := ⟨fields⟩) fun v hv =>
    (hvalues _ (Fields.mem_of_get? hv)).ne_held
  exact lenient_of_meets hconforms.meets (Record.normal_normalize now url ⟨fields⟩) hheld hf hlisted

/-- The least answer that is accepted. -/
theorem acceptDirect_faults_statusOnly :
    ∃ r schema, Recovery.acceptDirect "2026-01-01T00:00:00Z" "page" "\x7b\"status\":\"ok\"\x7d" = .ok r ∧
      Json.ofText? Prompt.schema = some schema ∧
        ∀ f ∈ faults schema r.toJson, ¬f.IsListed → Lenient f := by
  have haccept : Recovery.acceptDirect "2026-01-01T00:00:00Z" "page" "\x7b\"status\":\"ok\"\x7d" =
      .ok ⟨[("status", .string "ok"), ("url", .string "page"),
        ("captured_at", .string "2026-01-01T00:00:00Z"), ("images", .array []),
        ("variations", .array [])]⟩ := by
    decide +kernel
  obtain ⟨schema, hschema, hfaults⟩ := acceptDirect_faults haccept
  exact ⟨_, schema, haccept, hschema, hfaults⟩

/-- An answer on which the check is lenient in every way. -/
def lenientAnswer : String :=
  "\x7b\"status\":\" ok \",\"notes\":null,\"error\":null,\"title\":null,\"description\":null," ++
    "\"currency\":null,\"variations\":[\x7b\"title\":\"Red\"\x7d," ++
    "\x7b\"title\":\"Green\",\"position\":null\x7d]\x7d"

/-- The answer is accepted, and misses the schema at eight places. -/
theorem acceptDirect_lenient :
    ∃ r schema, Recovery.acceptDirect "2026-01-01T00:00:00Z" "page" lenientAnswer = .ok r ∧
      Json.ofText? Prompt.schema = some schema ∧ faults schema r.toJson = [
        ⟨[.member "status"], "enum", some (.string " ok ")⟩,
        ⟨[.member "notes"], "type", some .null⟩,
        ⟨[.member "error"], "type", some .null⟩,
        ⟨[.member "title"], "type", some .null⟩,
        ⟨[.member "description"], "type", some .null⟩,
        ⟨[.member "currency"], "type", some .null⟩,
        ⟨[.member "variations", .item 0, .member "position"], "required", none⟩,
        ⟨[.member "variations", .item 1, .member "position"], "type", some .null⟩] := by
  have haccept : Recovery.acceptDirect "2026-01-01T00:00:00Z" "page" lenientAnswer =
      .ok ⟨[("status", .string " ok "), ("notes", .null), ("error", .null), ("title", .null),
        ("description", .null), ("currency", .null), ("variations", .array [
          .object [("title", .string "Red"), ("images", .array [])],
          .object [("title", .string "Green"), ("position", .null), ("images", .array [])]]),
        ("url", .string "page"),
        ("captured_at", .string "2026-01-01T00:00:00Z"), ("images", .array [])]⟩ := by
    decide +kernel
  exact ⟨_, contract, haccept, ofText?_schema, by decide +kernel⟩

end ListingCrawl.Schema
