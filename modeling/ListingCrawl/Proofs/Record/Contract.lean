import Mathlib.Data.List.TakeDrop
import ListingCrawl.Proofs.Except
import ListingCrawl.Proofs.Json.Settled
import ListingCrawl.Proofs.Text.Trim
import ListingCrawl.Record.Contract

/-! When a record keeps the contract. Its members must have the types of the contract, each by itself,
and the listing that they make up must have no violations. Only the keys of the contract matter, so that
other keys can be written into a record that keeps it; and the record of a failed job keeps it. -/

namespace ListingCrawl

/-! ### Shapes -/

namespace Json.Check

variable {v : Json}

theorem text_eq_ok : text v = .ok () ↔ ∃ s, v = .string s := by
  cases v <;> simp [text]

theorem integer_eq_ok :
    integer v = .ok () ↔ ∃ token n, v = .number token ∧ int64? token = some n := by
  cases v with
  | number token => cases h : int64? token <;> simp [integer, h]
  | _ => simp [integer]

theorem optional_eq_ok {check : Check} : optional check v = .ok () ↔ v = .null ∨ check v = .ok () := by
  cases v with
  | null => simp [optional]
  | _ => simp [optional]

theorem list_eq_ok {check : Check} :
    list check v = .ok () ↔ ∃ items, v = .array items ∧ ∀ item ∈ items, check item = .ok () := by
  cases v with
  | array items =>
    rw [list, forM_eq_ok]
    simp
  | _ => simp [list]

end Json.Check

namespace Json.Shape

theorem readObject_optionalFields {name : String} {fields : List (String × Check)}
    {members fs : Fields} : (optionalFields name fields).readObject members = .ok fs ↔
      (∀ m ∈ members, (optionalFields name fields).checkMember m = .ok ()) ∧ members = fs := by
  have hnone : (optionalFields name fields).fields.find?
      (fun f => f.required && !members.contains f.name) = none := by
    rw [List.find?_eq_none]
    intro f hf
    obtain ⟨p, -, rfl⟩ := List.mem_map.mp hf
    simp
  rw [readObject, bind_eq_ok, hnone]
  constructor
  · rintro ⟨⟨⟩, hm, h⟩
    cases h
    exact ⟨forM_eq_ok.mp hm, rfl⟩
  · rintro ⟨hm, rfl⟩
    exact ⟨(), forM_eq_ok.mpr hm, rfl⟩

/-- A member that the structure does not know is no mismatch. -/
theorem checkMember_of_not_mem {s : Shape} {m : String × Json} (h : m.1 ∉ s.fields.map (·.name)) :
    s.checkMember m = .ok () := by
  have hnone : s.fields.find? (·.name == m.1) = none := by
    rw [List.find?_eq_none]
    intro f hf hname
    exact h (List.mem_map.mpr ⟨f, hf, eq_of_beq hname⟩)
  rw [checkMember, hnone]

theorem check_eq_ok {s : Shape} {v : Json} : s.check v = .ok () ↔ ∃ fs, s.read v = .ok fs := by
  simp [check, map_eq_ok]

end Json.Shape

/-! ### Numeric texts -/

/-- One or more digits. -/
def IsDigits (cs : List Char) : Prop :=
  cs ≠ [] ∧ ∀ c ∈ cs, c.isDigit = true

/-- Digits, and perhaps a point and digits behind it. -/
def IsNumeral (cs : List Char) : Prop :=
  IsDigits cs ∨ ∃ whole fraction, cs = whole ++ '.' :: fraction ∧ IsDigits whole ∧ IsDigits fraction

theorem isDigits_iff {cs : List Char} : (!cs.isEmpty && cs.all Char.isDigit) = true ↔ IsDigits cs := by
  simp [IsDigits]

/-- There is no point in digits. -/
theorem IsDigits.ne_point {cs : List Char} (h : IsDigits cs) : ∀ c ∈ cs, (c != '.') = true := by
  intro c hc
  rw [bne_iff_ne]
  rintro rfl
  exact absurd (h.2 '.' hc) (by decide)

theorem isNumericText_iff {s : String} : isNumericText s = true ↔ IsNumeral s.toList := by
  simp only [isNumericText, List.span_eq_takeWhile_dropWhile]
  constructor
  · intro h
    have hall := List.takeWhile_append_dropWhile (p := (· != '.')) (l := s.toList)
    have hfirst := List.head?_dropWhile_not (· != '.') s.toList
    -- the first point, if there is one, is where the text is cut
    cases hrest : s.toList.dropWhile (· != '.') with
    | nil =>
      rw [hrest, List.append_nil] at hall
      rw [hrest, hall] at h
      exact .inl (isDigits_iff.mp h)
    | cons point fraction =>
      obtain rfl : point = '.' := by simpa [hrest] using hfirst
      rw [hrest] at h hall
      obtain ⟨hwhole, hfraction⟩ := Bool.and_eq_true_iff.mp h
      exact .inr ⟨_, fraction, hall.symm, isDigits_iff.mp hwhole, isDigits_iff.mp hfraction⟩
  · rintro (hdigits | ⟨whole, fraction, hs, hwhole, hfraction⟩)
    · rw [List.takeWhile_eq_self_iff.mpr hdigits.ne_point, List.dropWhile_eq_nil_iff.mpr hdigits.ne_point]
      exact isDigits_iff.mpr hdigits
    · rw [hs, List.takeWhile_append_of_pos hwhole.ne_point, List.dropWhile_append_of_pos hwhole.ne_point,
        List.takeWhile_cons_of_neg (by decide), List.dropWhile_cons_of_neg (by decide), List.append_nil]
      exact Bool.and_eq_true_iff.mpr ⟨isDigits_iff.mpr hwhole, isDigits_iff.mpr hfraction⟩

namespace Variation

theorem read_eq_ok {v : Json} {x : Variation} :
    read v = .ok x ↔ ∃ fs, shape.read v = .ok fs ∧ ofFields fs = x :=
  map_eq_ok

theorem check_eq_ok {v : Json} : shape.check v = .ok () ↔ ∃ x, read v = .ok x := by
  rw [Json.Shape.check_eq_ok]
  constructor
  · rintro ⟨fs, hread⟩
    exact ⟨_, read_eq_ok.mpr ⟨fs, hread, rfl⟩⟩
  · rintro ⟨x, hx⟩
    obtain ⟨fs, hread, -⟩ := read_eq_ok.mp hx
    exact ⟨fs, hread⟩

/-- The variation has a title, and no negative position. -/
def Sound (v : Variation) : Prop :=
  Listing.isMissing v.title = false ∧ ∀ n, v.position = some n → 0 ≤ n

theorem sound_iff (i : Nat) {v : Variation} : Listing.variationViolations i v = [] ↔ v.Sound := by
  cases hp : v.position <;> simp [Listing.variationViolations, Sound, hp]

end Variation

namespace Listing

/-- The keys that the contract is about. -/
def keys : List String :=
  shape.fields.map (·.name)

theorem ofRecord_eq_ok {r : Record} {l : Listing} : ofRecord r = .ok l ↔
    (∀ m ∈ r.fields, shape.checkMember m = .ok ()) ∧ ofFields r.fields = l := by
  rw [ofRecord, map_eq_ok]
  constructor
  · rintro ⟨fs, h, rfl⟩
    obtain ⟨hm, rfl⟩ := Json.Shape.readObject_optionalFields.mp h
    exact ⟨hm, rfl⟩
  · rintro ⟨hm, rfl⟩
    exact ⟨r.fields, Json.Shape.readObject_optionalFields.mpr ⟨hm, rfl⟩, rfl⟩

theorem checkMember_variations {items : List Json} :
    shape.checkMember ("variations", .array items) = .ok () ↔
      ∀ item ∈ items, ∃ x, Variation.read item = .ok x := by
  have hcheck : shape.checkMember ("variations", .array items) = items.forM Variation.shape.check := rfl
  simp only [hcheck, forM_eq_ok, Variation.check_eq_ok]

theorem ofFields_congr {fs gs : Fields} (h : ∀ key ∈ keys, fs.get? key = gs.get? key) :
    ofFields fs = ofFields gs := by
  have text : ∀ key ∈ keys, fs.text? key = gs.text? key := by
    intro key hkey
    rw [Fields.text?, Fields.text?, h key hkey]
  simp only [ofFields, text "url" (by decide), text "status" (by decide),
    text "captured_at" (by decide), text "notes" (by decide), text "error" (by decide),
    text "title" (by decide), text "description" (by decide), text "currency" (by decide),
    h "price" (by decide), h "images" (by decide), h "variations" (by decide)]

/-! ### Violations -/

theorem isMissing_eq_false {text : Option String} :
    isMissing text = false ↔ ∃ s, text = some s ∧ Text.isBlankText s = false := by
  cases text <;> simp [isMissing]

theorem captureViolations_eq_nil {l : Listing} : l.captureViolations = [] ↔
    ∃ t, l.capturedAt.bind Text.trimmed? = some t ∧ Time.isRfc3339 t = true := by
  unfold captureViolations
  cases l.capturedAt.bind Text.trimmed? <;> simp

theorem priceViolations_eq_nil {l : Listing} :
    l.priceViolations = [] ↔ ∀ v, l.price = some v → isPrice v = true := by
  unfold priceViolations
  cases l.price <;> simp

/-- What the record has as its price decides, null being no price. -/
theorem forall_price_ofFields {fs : Fields} : (∀ w, (ofFields fs).price = some w → isPrice w = true) ↔
    ∀ v, fs.get? "price" = some v → ∀ w, v.settle = .ok w → isPrice w = true := by
  have hprice : (ofFields fs).price =
      ((fs.get? "price").filter fun v => !v.isNull).bind fun v => v.settle.toOption := rfl
  rw [hprice]
  cases fs.get? "price" with
  | none => simp
  | some v =>
    by_cases hnull : v = .null
    · subst hnull
      refine iff_of_true nofun ?_
      rintro v ⟨⟩ w ⟨⟩
      rfl
    · have hkept : (!v.isNull) = true := by
        cases v <;> first | rfl | exact absurd rfl hnull
      simp only [Option.filter_some, hkept, if_true, Option.bind_some, toOption_eq_some, Option.some.injEq,
        forall_eq']

/-- What is decoded as a price: null, a number, a numeric text, or an object that holds a number. -/
theorem exists_settle_isPrice_iff {v : Json} : (∃ w, v.settle = .ok w ∧ isPrice w = true) ↔
    v = .null ∨ (∃ token, v = .number token) ∨
      (∃ s, v = .string s ∧ isNumericText (Text.trim s) = true) ∨
      ∃ text, v = .held text ∧ Json.IsNumberText text := by
  cases v with
  | object fields =>
    simp only [Json.settle_object_eq_ok, reduceCtorEq, false_and, exists_const, false_or]
    constructor
    · rintro ⟨w, ⟨text, token, hheld, htoken, -⟩ | ⟨-, gs, -, rfl⟩, hw⟩
      · exact ⟨text, hheld, token, htoken⟩
      · cases hw
    · rintro ⟨text, hheld, token, htoken⟩
      exact ⟨.number token, .inl ⟨text, token, hheld, htoken, rfl⟩, rfl⟩
  | array items =>
    simp only [Json.settle, map_eq_ok, Json.held, reduceCtorEq, false_and, exists_const, or_false, iff_false]
    rintro ⟨w, ⟨ws, -, rfl⟩, hw⟩
    cases hw
  | _ => simp [Json.settle, Json.held, isPrice]

/-- A listing without violations keeps each rule of the contract by itself. -/
theorem violations_eq_nil {l : Listing} : l.violations = [] ↔
    isMissing l.url = false ∧ (Status.ofName? l.statusText).isSome = true ∧
      (∃ t, l.capturedAt.bind Text.trimmed? = some t ∧ Time.isRfc3339 t = true) ∧
      (l.statusText = Status.needsManual.name → isMissing l.notes = false) ∧
      (l.statusText = Status.error.name → isMissing l.error = false) ∧
      (∀ v, l.price = some v → isPrice v = true) ∧ ∀ v ∈ l.variations.getD [], v.Sound := by
  have hvariations : ((l.variations.getD []).mapIdx variationViolations).flatten = [] ↔
      ∀ v ∈ l.variations.getD [], v.Sound := by
    rw [List.flatten_eq_nil_iff, List.forall_mem_iff_getElem, List.forall_mem_iff_getElem]
    simp [Variation.sound_iff]
  simp only [violations, List.append_eq_nil_iff, captureViolations_eq_nil, priceViolations_eq_nil,
    hvariations, and_assoc, ite_eq_right_iff, List.cons_ne_nil, imp_false, Bool.not_eq_true]
  simp only [Option.isNone_eq_false_iff, not_and, Bool.not_eq_true]

end Listing

namespace Record

theorem text?_insertText_self (r : Record) (key s : String) : (r.insertText key s).text? key = some s :=
  Fields.text?_eq_some_iff.mpr Fields.get?_insert_self

theorem text?_insert_of_ne {key other : String} (h : key ≠ other) (r : Record) (v : Json) :
    (r.insert other v).text? key = r.text? key := by
  rw [text?, text?, Fields.text?, Fields.text?, insert, Fields.get?_insert_of_ne h]

theorem get?_insert_of_ne {key other : String} (h : key ≠ other) (r : Record) (v : Json) :
    (r.insert other v).get? key = r.get? key :=
  Fields.get?_insert_of_ne h

/-! ### Records that keep the contract -/

/-- The record keeps the contract. -/
def Conforms (r : Record) : Prop :=
  ∃ l, r.validate = .ok l

theorem validate_eq_ok {r : Record} {l : Listing} : r.validate = .ok l ↔
    (∀ m ∈ r.fields, Listing.shape.checkMember m = .ok ()) ∧
      Listing.ofFields r.fields = l ∧ l.violations = [] := by
  rw [← and_assoc, ← Listing.ofRecord_eq_ok, validate]
  cases h : Listing.ofRecord r with
  | error mismatch => simp
  | ok listing =>
    cases hv : listing.violations with
    | nil =>
      simp only [hv, Except.ok.injEq]
      constructor
      · rintro rfl
        exact ⟨rfl, hv⟩
      · exact And.left
    | cons v vs =>
      simp only [hv, Except.ok.injEq]
      constructor
      · intro hl
        cases hl
      · rintro ⟨rfl, hnil⟩
        rw [hv] at hnil
        cases hnil

/-- A key outside the contract can be written into a record that keeps it. -/
theorem Conforms.insert {r : Record} (h : r.Conforms) {key : String} (v : Json)
    (hkey : key ∉ Listing.keys) : (r.insert key v).Conforms := by
  obtain ⟨l, h⟩ := h
  refine ⟨l, ?_⟩
  rw [validate_eq_ok] at h ⊢
  obtain ⟨hm, rfl, hv⟩ := h
  refine ⟨fun m hmem => ?_, ?_, hv⟩
  · obtain rfl | hmem := Fields.mem_insert hmem
    · exact Json.Shape.checkMember_of_not_mem hkey
    · exact hm m hmem
  · apply Listing.ofFields_congr
    intro other hother
    refine Fields.get?_insert_of_ne ?_
    rintro rfl
    exact hkey hother

/-! ### Failed records -/

/-- The record says that the job failed, and why. -/
def ReportsFailure (r : Record) : Prop :=
  r.text? "status" = some "error" ∧
    ∃ message, r.text? "error" = some message ∧ Text.isBlankText message = false

theorem ReportsFailure.insert {r : Record} (h : r.ReportsFailure) {key : String} (v : Json)
    (hstatus : key ≠ "status") (herror : key ≠ "error") : (r.insert key v).ReportsFailure := by
  obtain ⟨hs, message, he, hb⟩ := h
  refine ⟨?_, message, ?_, hb⟩
  · rw [text?_insert_of_ne hstatus.symm, hs]
  · rw [text?_insert_of_ne herror.symm, he]

theorem failed_fields (now url message : String) : (failed now url message).fields =
    [("url", .string url), ("status", .string "error"), ("captured_at", .string now),
      ("error", .string message)] := by
  rfl

/-- The record of a failed job keeps the contract. -/
theorem conforms_failed {now url message : String} (hurl : Text.isBlankText url = false)
    (hnow : Text.isBlankText now = false) (htime : Time.isRfc3339 (Text.trim now) = true)
    (hmessage : Text.isBlankText message = false) :
    (failed now url message).Conforms := by
  refine ⟨_, validate_eq_ok.mpr ⟨?_, rfl, ?_⟩⟩
  · rw [failed_fields]
    intro m hm
    simp only [List.mem_cons, List.not_mem_nil, or_false] at hm
    obtain rfl | rfl | rfl | rfl := hm <;> rfl
  · have hl : Listing.ofFields (failed now url message).fields =
        ⟨some url, some "error", some now, none, some message, none, none, none, none, none, none⟩ :=
      rfl
    have hstatus : Text.trim "error" = "error" := by decide
    have hname : Status.ofName? "error" = some .error := by decide
    have htrim : Text.trimmed? now = some (Text.trim now) :=
      Text.trimmed?_eq_some_iff.mpr ⟨hnow, rfl⟩
    rw [hl]
    simp [Listing.violations, Listing.isMissing, Listing.statusText, Listing.captureViolations,
      Listing.priceViolations, Status.name, hurl, hstatus, hname, htrim, htime, hmessage]

theorem reportsFailure_failed (now url : String) {message : String}
    (h : Text.isBlankText message = false) : (failed now url message).ReportsFailure :=
  ⟨rfl, message, rfl, h⟩

end Record

end ListingCrawl
