import ListingCrawl.Proofs.Json.Fields
import ListingCrawl.Proofs.Json.Numerals

/-! Values as the reader gives them: the numbers are tokens that the reader notes, no object has a key
twice, and containers are nested only so deep. Changes of an object that keep this are those of a map. Nor
does the reader give an object that holds a number; but this is not kept where a key is removed, since another
one may then come first. -/

namespace ListingCrawl.Json

open Octets

variable {α : Type}

/-- A value as the reader gives it, with containers nested at most so deep. -/
inductive AsRead : Nat → Json → Prop
  | null (levels : Nat) : AsRead levels .null
  | bool (levels : Nat) (b : Bool) : AsRead levels (.bool b)
  | number (levels : Nat) {token : String} : IsToken token → AsRead levels (.number token)
  | string (levels : Nat) (text : String) : AsRead levels (.string text)
  | array {levels : Nat} {items : List Json} :
      (∀ v ∈ items, AsRead levels v) → AsRead (levels + 1) (.array items)
  | object {levels : Nat} {fields : Fields} :
      fields.keys.Nodup → (∀ e ∈ fields, AsRead levels e.2) → AsRead (levels + 1) (.object fields)

/-- More levels admit more values. -/
theorem AsRead.mono {levels levels' : Nat} {v : Json} (h : AsRead levels v) (hle : levels ≤ levels') :
    AsRead levels' v := by
  induction h generalizing levels' with
  | null => exact .null levels'
  | bool _ b => exact .bool levels' b
  | number _ hn => exact .number levels' hn
  | string _ text => exact .string levels' text
  | array _ ih =>
    obtain ⟨below, rfl⟩ := Nat.exists_eq_add_of_lt hle
    exact .array fun v hv => ih v hv (by omega)
  | object hnodup _ ih =>
    obtain ⟨below, rfl⟩ := Nat.exists_eq_add_of_lt hle
    exact .object hnodup fun e he => ih e he (by omega)

/-! ### Objects -/

/-- The entries of an object as the reader gives them. -/
structure EntriesAsRead (levels : Nat) (fields : Fields) : Prop where
  nodup : fields.keys.Nodup
  values : ∀ e ∈ fields, AsRead levels e.2

theorem asRead_object_iff {levels : Nat} {fields : Fields} :
    AsRead (levels + 1) (.object fields) ↔ EntriesAsRead levels fields := by
  constructor
  · intro h
    cases h with
    | object hnodup hvalues => exact ⟨hnodup, hvalues⟩
  · intro h
    exact .object h.nodup h.values

theorem asRead_array_iff {levels : Nat} {items : List Json} :
    AsRead (levels + 1) (.array items) ↔ ∀ v ∈ items, AsRead levels v := by
  constructor
  · intro h
    cases h with
    | array hitems => exact hitems
  · exact .array

namespace EntriesAsRead

variable {levels : Nat} {fs : Fields} {key : String} {v : Json}

theorem nil (levels : Nat) : EntriesAsRead levels [] :=
  ⟨List.nodup_nil, by simp⟩

theorem get? (h : EntriesAsRead levels fs) (hv : fs.get? key = some v) : AsRead levels v :=
  h.values _ (Fields.mem_of_get? hv)

theorem insert (h : EntriesAsRead levels fs) (hv : AsRead levels v) :
    EntriesAsRead levels (fs.insert key v) := by
  refine ⟨Fields.nodup_keys_insert h.nodup, fun e he => ?_⟩
  obtain rfl | he := Fields.mem_insert he
  · exact hv
  · exact h.values e he

/-- Several values that are put one after the other. -/
theorem foldl_insert {es : List (String × Json)} (h : EntriesAsRead levels fs)
    (hes : ∀ e ∈ es, AsRead levels e.2) :
    EntriesAsRead levels (es.foldl (fun fs e => fs.insert e.1 e.2) fs) := by
  induction es generalizing fs with
  | nil => exact h
  | cons e es ih =>
    obtain ⟨he, hes⟩ := List.forall_mem_cons.mp hes
    exact ih (h.insert he) hes

/-- Of a repeated key only one value is kept. -/
theorem ofEntries {es : List (String × Json)} (hes : ∀ e ∈ es, AsRead levels e.2) :
    EntriesAsRead levels (Fields.ofEntries es) :=
  (nil levels).foldl_insert hes

end EntriesAsRead

/-! ### Plain values -/

/-- No object in the value holds a number. -/
inductive Plain : Json → Prop
  | null : Plain .null
  | bool (b : Bool) : Plain (.bool b)
  | number (token : String) : Plain (.number token)
  | string (text : String) : Plain (.string text)
  | array {items : List Json} : (∀ v ∈ items, Plain v) → Plain (.array items)
  | object {fs : Fields} :
      Fields.holdsNumber fs = false → (∀ e ∈ fs, Plain e.2) → Plain (.object fs)

theorem plain_array_iff {items : List Json} : Plain (.array items) ↔ ∀ v ∈ items, Plain v := by
  constructor
  · intro h
    cases h with
    | array hitems => exact hitems
  · exact .array

theorem plain_object_iff {fs : Fields} :
    Plain (.object fs) ↔ Fields.holdsNumber fs = false ∧ ∀ e ∈ fs, Plain e.2 := by
  constructor
  · intro h
    cases h with
    | object hholds hvalues => exact ⟨hholds, hvalues⟩
  · rintro ⟨hholds, hvalues⟩
    exact .object hholds hvalues

/-! ### Reading -/

/-- A property of all that `p` reads. -/
def Gives (p : Reader α) (P : α → Prop) : Prop :=
  ∀ s v r, p s = .ok (v, r) → P v

theorem gives_readMore {next : Reader α} {P : α → Prop} (hnext : Gives next P) (close : UInt8)
    (atEnd other : ReadError) (fuel : Octets) :
    Gives (readMore next close atEnd other fuel) fun vs => ∀ v ∈ vs, P v := by
  induction fuel with
  | nil =>
    intro s v r h
    cases h
  | cons _ fuel ih =>
    intro s vs r h
    rw [readMore] at h
    split at h
    · cases h
    · split at h
      · cases h
        simp
      · split at h
        · simp only [bind_eq_ok] at h
          obtain ⟨⟨x, r₂⟩, hx, ⟨xs, r₃⟩, hxs, h⟩ := h
          cases h
          exact List.forall_mem_cons.mpr ⟨hnext _ _ _ hx, ih _ _ _ hxs⟩
        · cases h

theorem gives_readItems {item : Reader Json} {P : Json → Prop} (hitem : Gives item P) :
    Gives (readItems item) fun vs => ∀ v ∈ vs, P v := by
  intro s vs r h
  have hnext : Gives (readNextItem item) P := by
    intro s v r h
    unfold readNextItem at h
    split at h
    · cases h
    · split at h
      · cases h
      · exact hitem _ _ _ h
  unfold readItems at h
  split at h
  · cases h
  · split at h
    · cases h
      simp
    · simp only [bind_eq_ok, readMoreItems_eq] at h
      obtain ⟨⟨x, r₂⟩, hx, ⟨xs, r₃⟩, hxs, h⟩ := h
      cases h
      exact List.forall_mem_cons.mpr ⟨hitem _ _ _ hx, gives_readMore hnext _ _ _ _ _ _ _ hxs⟩

theorem gives_readMembers {value : Reader Json} {P : Json → Prop} (hvalue : Gives value P) :
    Gives (readMembers value) fun ms => ∀ m ∈ ms, P m.2 := by
  have hmember : Gives (readMember value) fun m => P m.2 := by
    intro s m r h
    rw [readMember, bind_eq_ok] at h
    obtain ⟨⟨key, r₁⟩, -, h⟩ := h
    dsimp only at h
    split at h
    · cases h
    · split at h
      · rw [bind_eq_ok] at h
        obtain ⟨⟨x, r₃⟩, hx, h⟩ := h
        cases h
        exact hvalue _ _ _ hx
      · cases h
  have hnext : Gives (readNextMember value) fun m => P m.2 := by
    intro s m r h
    unfold readNextMember at h
    split at h
    · cases h
    · split at h
      · exact hmember _ _ _ h
      · cases h
  intro s ms r h
  unfold readMembers at h
  split at h
  · cases h
  · split at h
    · cases h
      simp
    · split at h
      · simp only [bind_eq_ok, readMoreMembers_eq] at h
        obtain ⟨⟨m, r₂⟩, hm, ⟨ms, r₃⟩, hms, h⟩ := h
        cases h
        exact List.forall_mem_cons.mpr ⟨hmember _ _ _ hm, gives_readMore hnext _ _ _ _ _ _ _ hms⟩
      · cases h

/-- The members of an object that is read as it is. -/
theorem plain_ofEntries {ms : List (String × Json)} (hholds : Fields.holdsNumber ms = false)
    (hms : ∀ m ∈ ms, Plain m.2) : Plain (.object (Fields.ofEntries ms)) :=
  .object (Fields.holdsNumber_ofEntries ms ▸ hholds) fun e he => hms e (Fields.mem_of_mem_ofEntries he)

/-- An object that is read is the number that it holds, or its members with each key once. -/
theorem gives_readObject {levels : Nat}
    (hvalue : Gives (readValue levels) fun v => AsRead levels v ∧ Plain v) :
    Gives (readObject (readValue levels)) fun v => AsRead (levels + 1) v ∧ Plain v := by
  intro s v r h
  obtain ⟨ms, hms, hv⟩ := readObject_eq_ok.mp h
  obtain ⟨text, token, -, htoken, rfl⟩ | ⟨hholds, rfl⟩ := ofMembers?_eq_some_iff.mp hv
  · exact ⟨.number _ (isToken_of_readNumeral htoken), .number token⟩
  · obtain ⟨hread, hplain⟩ := forall₂_and.mp (gives_readMembers hvalue _ _ _ hms)
    exact ⟨asRead_object_iff.mpr (.ofEntries hread), plain_ofEntries hholds hplain⟩

/-- One level: what is read in containers is read by the level below. -/
theorem gives_readRest {levels : Nat} (hbelow : ∀ below, levels = below + 1 →
      Gives (readValue below) fun v => AsRead below v ∧ Plain v) (b : UInt8) :
    Gives (readRest levels b) fun v => AsRead levels v ∧ Plain v := by
  intro s v r h
  by_cases hliteral : b = 0x6e ∨ b = 0x74 ∨ b = 0x66
  · obtain rfl | rfl | rfl := hliteral
    · obtain ⟨_, -, h⟩ := bind_eq_ok.mp h
      cases h
      exact ⟨.null levels, .null⟩
    · obtain ⟨_, -, h⟩ := bind_eq_ok.mp h
      cases h
      exact ⟨.bool levels true, .bool true⟩
    · obtain ⟨_, -, h⟩ := bind_eq_ok.mp h
      cases h
      exact ⟨.bool levels false, .bool false⟩
  simp only [not_or] at hliteral
  obtain ⟨hnull, htrue, hfalse⟩ := hliteral
  simp only [readRest, if_neg hnull, if_neg htrue, if_neg hfalse] at h
  split at h
  · obtain ⟨⟨token, r₁⟩, hn, h⟩ := bind_eq_ok.mp h
    cases h
    exact ⟨.number levels (isToken_of_readNumber hn), .number token⟩
  · split at h
    · obtain ⟨⟨text, r₁⟩, -, h⟩ := bind_eq_ok.mp h
      cases h
      exact ⟨.string levels text, .string text⟩
    · split at h
      · cases levels with
        | zero => cases h
        | succ below =>
          obtain ⟨⟨items, r₁⟩, hitems, h⟩ := bind_eq_ok.mp h
          cases h
          obtain ⟨hread, hplain⟩ := forall₂_and.mp (gives_readItems (hbelow below rfl) _ _ _ hitems)
          exact ⟨.array hread, .array hplain⟩
      · split at h
        · cases levels with
          | zero => cases h
          | succ below => exact gives_readObject (hbelow below rfl) _ _ _ h
        · cases h

/-- What is read is as the reader gives it, and plain. -/
theorem gives_readValue (levels : Nat) :
    Gives (readValue levels) fun v => AsRead levels v ∧ Plain v := by
  have step : ∀ levels, (∀ below, levels = below + 1 →
      Gives (readValue below) fun v => AsRead below v ∧ Plain v) →
      Gives (readValue levels) fun v => AsRead levels v ∧ Plain v := by
    intro levels hbelow s v r h
    rw [readValue_eq] at h
    split at h
    · cases h
    · exact gives_readRest hbelow _ _ _ _ h
  induction levels with
  | zero => exact step 0 (fun below h => by omega)
  | succ levels ih =>
    apply step
    intro below h
    obtain rfl : levels = below := by omega
    exact ih

end ListingCrawl.Json
