import ListingCrawl.Json.Settled
import ListingCrawl.Proofs.Except
import ListingCrawl.Proofs.Json.AsRead

/-! Which values can be decoded from values. Each object in the value either does not begin with the reserved
key, or has it as its only key, over the text of a number. -/

namespace ListingCrawl.Json

variable {items : List Json} {fields : Fields} {v w : Json} {text token : String}

/-- The text is a number as JSON writes it, and nothing else. -/
def IsNumberText (text : String) : Prop :=
  ∃ token, readNumeral (Octets.ofText text) = .ok token

instance (text : String) : Decidable (IsNumberText text) :=
  match h : readNumeral (Octets.ofText text) with
  | .ok token => isTrue ⟨token, h⟩
  | .error _ => isFalse fun ⟨_, htoken⟩ => by rw [h] at htoken; cases htoken

/-- The object that holds a number. -/
def held (text : String) : Json :=
  .object [(Fields.numberKey, .string text)]

/-- Every object that begins with the reserved key holds a number. -/
inductive WellHeld : Json → Prop
  | null : WellHeld .null
  | bool (b : Bool) : WellHeld (.bool b)
  | number (token : String) : WellHeld (.number token)
  | string (text : String) : WellHeld (.string text)
  | array {items : List Json} : (∀ v ∈ items, WellHeld v) → WellHeld (.array items)
  | object {fields : Fields} :
      Fields.holdsNumber fields = false → (∀ e ∈ fields, WellHeld e.2) → WellHeld (.object fields)
  | held {text : String} : IsNumberText text → WellHeld (held text)

theorem Plain.ne_held (h : Plain v) (text : String) : v ≠ held text := by
  rintro rfl
  cases (plain_object_iff.mp h).1

/-! ### Decoding -/

theorem exists_settleItems : (∃ ws, settleItems items = .ok ws) ↔ ∀ v ∈ items, ∃ w, settle v = .ok w := by
  induction items with
  | nil => simp [settleItems]
  | cons v vs ih =>
    simp only [settleItems, bind_eq_ok, List.forall_mem_cons, ← ih]
    constructor
    · rintro ⟨_, w, hw, ws, hws, -⟩
      exact ⟨⟨w, hw⟩, ws, hws⟩
    · rintro ⟨⟨w, hw⟩, ws, hws⟩
      exact ⟨_, w, hw, ws, hws, rfl⟩

theorem exists_settleFields :
    (∃ gs, settleFields fields = .ok gs) ↔ ∀ e ∈ fields, ∃ w, settle e.2 = .ok w := by
  induction fields with
  | nil => simp [settleFields]
  | cons e fs ih =>
    obtain ⟨key, v⟩ := e
    simp only [settleFields, bind_eq_ok, List.forall_mem_cons, ← ih]
    constructor
    · rintro ⟨_, w, hw, gs, hgs, -⟩
      exact ⟨⟨w, hw⟩, gs, hgs⟩
    · rintro ⟨⟨w, hw⟩, gs, hgs⟩
      exact ⟨_, w, hw, gs, hgs, rfl⟩

theorem exists_settle_array :
    (∃ w, settle (.array items) = .ok w) ↔ ∀ v ∈ items, ∃ w, settle v = .ok w := by
  rw [← exists_settleItems]
  simp [settle, map_eq_ok]

/-- The number is there if it is held by the only member. -/
theorem heldNumber_eq_ok (hholds : fields.holdsNumber = true) : heldNumber fields = .ok w ↔
    ∃ text token, .object fields = held text ∧ readNumeral (Octets.ofText text) = .ok token ∧
      w = .number token := by
  cases fields with
  | nil => cases hholds
  | cons e others =>
    obtain ⟨key, v⟩ := e
    obtain rfl : key = Fields.numberKey := by simpa [Fields.holdsNumber] using hholds
    cases v with
    | string text =>
      cases htoken : readNumeral (Octets.ofText text) with
      | error e => simp [heldNumber, held, htoken]
      | ok token => cases others <;> simp [heldNumber, held, htoken, eq_comm]
    | _ => simp [heldNumber, held]

/-- An object becomes the number that it holds, or an object again. -/
theorem settle_object_eq_ok : settle (.object fields) = .ok w ↔
    (∃ text token, .object fields = held text ∧ readNumeral (Octets.ofText text) = .ok token ∧
      w = .number token) ∨
    (fields.holdsNumber = false ∧ ∃ gs, settleFields fields = .ok gs ∧ .object gs = w) := by
  rw [settle]
  cases hholds : fields.holdsNumber with
  | true => simp [heldNumber_eq_ok hholds]
  | false =>
    have hne : ∀ text, Json.object fields ≠ held text := by
      rintro text heq
      obtain rfl := Json.object.inj heq
      cases hholds
    simp [hne, map_eq_ok]

theorem wellHeld_of_settle : ∀ {v : Json}, (∃ w, settle v = .ok w) → WellHeld v
  | .null, _ => .null
  | .bool b, _ => .bool b
  | .number token, _ => .number token
  | .string text, _ => .string text
  | .array _, h => .array fun v hv => wellHeld_of_settle (exists_settle_array.mp h v hv)
  | .object fields, ⟨w, hw⟩ => by
    obtain ⟨text, token, hheld, htoken, -⟩ | ⟨hholds, gs, hgs, -⟩ := settle_object_eq_ok.mp hw
    · rw [hheld]
      exact .held ⟨token, htoken⟩
    · exact .object hholds fun e he => wellHeld_of_settle (exists_settleFields.mp ⟨gs, hgs⟩ e he)
decreasing_by
  · have hsize := List.sizeOf_lt_of_mem hv
    rw [array.sizeOf_spec]
    omega
  · have hsize := List.sizeOf_lt_of_mem he
    have hvalue : sizeOf e.2 < sizeOf e := by
      obtain ⟨key, v⟩ := e
      rw [Prod.mk.sizeOf_spec]
      dsimp only
      omega
    rw [object.sizeOf_spec]
    omega

/-- A value can be decoded exactly if what it holds as numbers are numbers. -/
theorem exists_settle_iff : (∃ w, settle v = .ok w) ↔ WellHeld v := by
  refine ⟨wellHeld_of_settle, fun h => ?_⟩
  induction h with
  | null => exact ⟨.null, rfl⟩
  | bool b => exact ⟨.bool b, rfl⟩
  | number token => exact ⟨_, rfl⟩
  | string text => exact ⟨.string text, rfl⟩
  | array _ ih => exact exists_settle_array.mpr ih
  | object hholds _ ih =>
    obtain ⟨gs, hgs⟩ := exists_settleFields.mpr ih
    exact ⟨_, settle_object_eq_ok.mpr (.inr ⟨hholds, gs, hgs, rfl⟩)⟩
  | held htext =>
    obtain ⟨token, htoken⟩ := htext
    exact ⟨_, settle_object_eq_ok.mpr (.inl ⟨_, token, rfl, htoken, rfl⟩)⟩

theorem Check.value_eq_ok : Check.value v = .ok () ↔ WellHeld v := by
  rw [← exists_settle_iff, Check.value, map_eq_ok]
  simp

end ListingCrawl.Json
