import ListingCrawl.Proofs.Json.Strings

/-! What holds all along while a text is read. Such an invariant is stated of the octets that are left: `A` where
a value or a structural sign comes next, `B` behind a value, each for the number of objects that are open. If
single octets and string literals keep it, every reader does. A string literal is passed over as a whole, so
the invariant need not say anything about places inside of it. -/

namespace ListingCrawl.Json

open Octets

variable {α β : Type} {P : Octets → Prop} {Q : α → Octets → Prop} {R : β → Octets → Prop}

/-! ### Readers and what holds before and after them -/

/-- Where `P` holds of what is left, and the reader succeeds, `Q` holds of what it reads and leaves. -/
def Keeps (P : Octets → Prop) (p : Reader α) (Q : α → Octets → Prop) : Prop :=
  ∀ s v r, p s = .ok (v, r) → P s → Q v r

theorem keeps_ok {v : α} (h : ∀ r, P r → Q v r) : Keeps P (fun r => .ok (v, r)) Q := by
  intro s x r hread hs
  cases hread
  exact h s hs

theorem keeps_error (e : ReadError) : Keeps P (fun _ => .error e) Q := by
  intro s v r h
  cases h

theorem Keeps.bind {p : Reader α} {f : α × Octets → Except ReadError (β × Octets)}
    (hp : Keeps P p Q) (hf : ∀ v, Keeps (Q v) (fun r => f (v, r)) R) :
    Keeps P (fun s => p s >>= f) R := by
  intro s x r h hs
  rw [bind_eq_ok] at h
  obtain ⟨⟨v, t⟩, hv, h⟩ := h
  exact hf v t x r h (hp s v t hv hs)

theorem Keeps.ite {c : Prop} [Decidable c] {p p' : Reader α} (hp : c → Keeps P p Q)
    (hp' : ¬c → Keeps P p' Q) : Keeps P (fun s => if c then p s else p' s) Q := by
  by_cases h : c
  · simpa only [if_pos h] using hp h
  · simpa only [if_neg h] using hp' h

theorem Keeps.weaken {p : Reader α} {P' : Octets → Prop} {Q' : α → Octets → Prop} (hp : Keeps P p Q)
    (hP : ∀ s, P' s → P s) (hQ : ∀ v r, Q v r → Q' v r) : Keeps P' p Q' :=
  fun s v r h hs => hQ v r (hp s v r h (hP s hs))

/-- What does not depend on the octets stays. -/
theorem Keeps.frame {p : Reader α} (hp : Keeps P p Q) (C : Prop) :
    Keeps (fun s => C ∧ P s) p fun v r => C ∧ Q v r :=
  fun s v r h hs => ⟨hs.1, hp s v r h hs.2⟩

/-- A reader that passes over white space and decides by the next octet. -/
theorem keeps_skipSpace {k : UInt8 → Reader α} {e : ReadError} (hP : ∀ s, P s → P (skipSpace s))
    (hk : ∀ b, Keeps (fun r => P (b :: r)) (k b) Q) :
    Keeps P (fun s => match skipSpace s with
      | [] => .error e
      | b :: r => k b r) Q := by
  intro s v r h hs
  have hskip := hP s hs
  dsimp only at h
  cases hfirst : skipSpace s with
  | nil =>
    rw [hfirst] at h
    cases h
  | cons b t =>
    rw [hfirst] at h hskip
    exact hk b t v r h hskip

/-! ### Invariants -/

/-- Neither a quote nor a backslash nor a brace. -/
def IsOrdinary (b : UInt8) : Prop :=
  b ≠ quote ∧ b ≠ backslash ∧ b ≠ openBrace ∧ b ≠ closeBrace

instance : DecidablePred IsOrdinary :=
  fun _ => inferInstanceAs (Decidable (_ ∧ _))

/-- What may stand behind a value, apart from a closing brace. -/
def IsPunctuation (b : UInt8) : Prop :=
  isSpace b = true ∨ b = comma ∨ b = colon ∨ b = closeBracket

theorem isOrdinary_of_isSpace {b : UInt8} (hb : isSpace b = true) : IsOrdinary b := by
  simp only [isSpace, Bool.or_eq_true, beq_iff_eq] at hb
  obtain ((rfl | rfl) | rfl) | rfl := hb <;> decide

theorem IsPunctuation.isOrdinary {b : UInt8} (hb : IsPunctuation b) : IsOrdinary b := by
  obtain hb | rfl | rfl | rfl := hb
  · exact isOrdinary_of_isSpace hb
  all_goals decide

theorem isOrdinary_of_isDigit {b : UInt8} (hb : isDigit b = true) : IsOrdinary b := by
  refine ⟨?_, ?_, ?_, ?_⟩
  all_goals
    rintro rfl
    revert hb
    decide

/-- What holds of the octets left to read: `A n` with `n` objects open, `B n` if a value has just been read
there. `K` holds of the texts that are read as strings. -/
structure ReadInvariant (A B : Nat → Octets → Prop) (K : String → Prop) : Prop where
  ordinary {n : Nat} {b : UInt8} {s : Octets} : IsOrdinary b → A n (b :: s) → A n s
  opens {n : Nat} {s : Octets} : A n (openBrace :: s) → A (n + 1) s
  behind {n : Nat} {s : Octets} : A n s → B n s
  punctuation {n : Nat} {b : UInt8} {s : Octets} : IsPunctuation b → B n (b :: s) → A n s
  closes {n : Nat} {s : Octets} : B (n + 1) (closeBrace :: s) → A n s
  literal {n : Nat} {c r : Octets} {text : String} : IsContent c →
    readString (c ++ quote :: r) = .ok (text, r) → A n (quote :: (c ++ quote :: r)) → K text ∧ B n r

namespace ReadInvariant

variable {A B : Nat → Octets → Prop} {K : String → Prop} (inv : ReadInvariant A B K) {n : Nat}
include inv

theorem append {c s : Octets} (hc : ∀ b ∈ c, IsOrdinary b) (h : A n (c ++ s)) : A n s := by
  induction c with
  | nil => exact h
  | cons b c ih =>
    obtain ⟨hb, hc⟩ := List.forall_mem_cons.mp hc
    exact ih hc (inv.ordinary hb h)

theorem dropWhile {p : UInt8 → Bool} (hp : ∀ b, p b = true → IsOrdinary b) {s : Octets} (h : A n s) :
    A n (s.dropWhile p) := by
  rw [← List.takeWhile_append_dropWhile (p := p) (l := s)] at h
  exact inv.append (fun b hb => hp b (List.all_eq_true.mp List.all_takeWhile b hb)) h

theorem tail {b : UInt8} (hb : IsOrdinary b) {s : Octets} (hs : s.head? = some b) (h : A n s) :
    A n (List.tail s) := by
  obtain ⟨s, rfl⟩ := List.head?_eq_some_iff.mp hs
  exact inv.ordinary hb h

theorem skipSpace {s : Octets} (h : A n s) : A n (skipSpace s) :=
  inv.dropWhile (fun _ => isOrdinary_of_isSpace) h

theorem skipSpace_behind {s : Octets} (h : B n s) : B n (Json.skipSpace s) := by
  cases s with
  | nil => exact h
  | cons b s =>
    by_cases hb : isSpace b = true
    · rw [Json.skipSpace, List.dropWhile_cons_of_pos hb]
      exact inv.behind (inv.skipSpace (inv.punctuation (.inl hb) h))
    · rwa [Json.skipSpace, List.dropWhile_cons_of_neg hb]

/-! ### Strings, numbers and literals -/

theorem keeps_readString :
    Keeps (fun r => A n (quote :: r)) readString fun text r => K text ∧ B n r := by
  intro s text r h hs
  obtain ⟨c, hc, rfl⟩ := content_of_readString h
  exact inv.literal hc h hs

theorem keeps_readDigits : Keeps (A n) readDigits fun _ => A n := by
  intro s ds r h hs
  unfold readDigits at h
  split at h
  · cases h
  · cases h
    exact inv.dropWhile (fun _ => isOrdinary_of_isDigit) hs

theorem keeps_readInteger : Keeps (A n) readInteger fun _ => A n := by
  unfold readInteger
  exact inv.keeps_readDigits.bind fun ds => .ite (fun _ => keeps_error _) fun _ => keeps_ok fun _ => id

theorem keeps_readFraction : Keeps (A n) readFraction fun _ => A n := by
  intro s f r h hs
  cases s with
  | nil =>
    cases h
    exact hs
  | cons b s =>
    simp only [readFraction] at h
    split at h
    · next hb =>
      rw [bind_eq_ok] at h
      obtain ⟨⟨ds, t⟩, hd, h⟩ := h
      cases h
      exact inv.keeps_readDigits _ _ _ hd (inv.ordinary (hb ▸ by decide) hs)
    · cases h
      exact hs

theorem keeps_readExponent : Keeps (A n) readExponent fun _ => A n := by
  intro s e r h hs
  cases s with
  | nil =>
    cases h
    exact hs
  | cons b s =>
    simp only [readExponent] at h
    split at h
    · next hb =>
      rw [bind_eq_ok] at h
      obtain ⟨⟨ds, t⟩, hd, h⟩ := h
      cases h
      have hletter : IsOrdinary b := by
        obtain rfl | rfl := hb <;> decide
      have hbehind := inv.ordinary hletter hs
      refine inv.keeps_readDigits _ _ _ hd ?_
      split
      · next hsign =>
        obtain hsign | hsign := hsign
        · exact inv.tail (by decide) hsign hbehind
        · exact inv.tail (by decide) hsign hbehind
      · exact hbehind
    · cases h
      exact hs

theorem keeps_readNumber : Keeps (A n) readNumber fun _ => A n := by
  intro s token r h hs
  simp only [readNumber, bind_eq_ok] at h
  obtain ⟨⟨int, t⟩, hint, ⟨frac, u⟩, hfrac, ⟨exp, w⟩, hexp, h⟩ := h
  cases h
  refine inv.keeps_readExponent _ _ _ hexp (inv.keeps_readFraction _ _ _ hfrac
    (inv.keeps_readInteger _ _ _ hint ?_))
  split
  · next hsign =>
    rw [List.length_singleton, List.drop_one]
    exact inv.tail (by decide) hsign hs
  · exact hs

theorem keeps_literal {es : Octets} (hes : ∀ b ∈ es, IsOrdinary b) (v : α) :
    Keeps (A n) (fun s => do
      let r ← readLiteral es s
      .ok (v, r)) fun _ => A n := by
  intro s x r h hs
  rw [bind_eq_ok] at h
  obtain ⟨t, ht, h⟩ := h
  cases h
  rw [readLiteral_eq_ok.mp ht] at hs
  exact inv.append hes hs

/-! ### Containers -/

/-- The elements behind the first, and the sign that closes the container. -/
theorem keeps_readMore {next : Reader α} {C : α → Prop} {E : Octets → Prop}
    (hnext : Keeps (A n) next fun v r => C v ∧ B n r) {close : UInt8}
    (hclose : ∀ r, B n (close :: r) → E r) (atEnd other : ReadError) (fuel : Octets) :
    Keeps (B n) (readMore next close atEnd other fuel) fun vs r => (∀ v ∈ vs, C v) ∧ E r := by
  induction fuel with
  | nil => exact keeps_error _
  | cons _ fuel ih =>
    refine keeps_skipSpace (fun _ => inv.skipSpace_behind) fun b => ?_
    refine .ite (fun hb => ?_) fun _ => .ite (fun hb => ?_) fun _ => keeps_error _
    · rw [hb]
      exact keeps_ok fun r hr => ⟨by simp, hclose r hr⟩
    · rw [hb]
      refine (hnext.weaken (fun r => inv.punctuation (.inr (.inl rfl))) fun _ _ => id).bind fun v =>
        (ih.frame (C v)).bind fun vs => keeps_ok fun r hr => ?_
      exact ⟨List.forall_mem_cons.mpr ⟨hr.1, hr.2.1⟩, hr.2.2⟩

theorem keeps_readNextItem {item : Reader Json} (hitem : Keeps (A n) item fun _ => B n) :
    Keeps (A n) (readNextItem item) fun _ r => True ∧ B n r :=
  keeps_skipSpace (fun _ => inv.skipSpace) fun b => .ite (fun _ => keeps_error _) fun _ s v r h hs =>
    ⟨trivial, hitem (b :: s) v r h hs⟩

theorem keeps_readItems {item : Reader Json} (hitem : Keeps (A n) item fun _ => B n) :
    Keeps (A n) (readItems item) fun _ => B n := by
  have hclose : ∀ r, B n (closeBracket :: r) → B n r := fun r hr =>
    inv.behind (inv.punctuation (.inr (.inr (.inr rfl))) hr)
  have hmore : Keeps (B n) (fun t => readMoreItems item t t) fun _ => B n := by
    intro t vs r h ht
    simp only [readMoreItems_eq] at h
    exact (inv.keeps_readMore (inv.keeps_readNextItem hitem) hclose _ _ t t vs r h ht).2
  refine keeps_skipSpace (fun _ => inv.skipSpace) fun b => .ite (fun hb => ?_) fun _ => ?_
  · rw [hb]
    exact keeps_ok fun r hr => hclose r (inv.behind hr)
  · have hfirst : Keeps (fun r => A n (b :: r)) (fun r => item (b :: r)) fun _ => B n :=
      fun s v r h hs => hitem (b :: s) v r h hs
    exact hfirst.bind fun v => hmore.bind fun vs => keeps_ok fun _ => id

theorem keeps_readMember {value : Reader Json} (hvalue : Keeps (A n) value fun _ => B n) :
    Keeps (fun r => A n (quote :: r)) (readMember value) fun m r => K m.1 ∧ B n r := by
  unfold readMember
  refine inv.keeps_readString.bind fun key =>
    keeps_skipSpace (P := fun r => K key ∧ B n r) (fun _ h => ⟨h.1, inv.skipSpace_behind h.2⟩) fun b =>
      .ite (fun hb => ?_) fun _ => keeps_error _
  rw [hb]
  exact ((hvalue.weaken (fun r => inv.punctuation (.inr (.inr (.inl rfl)))) fun _ _ => id).frame
    (K key)).bind fun v => keeps_ok fun _ => id

theorem keeps_readNextMember {value : Reader Json} (hvalue : Keeps (A n) value fun _ => B n) :
    Keeps (A n) (readNextMember value) fun m r => K m.1 ∧ B n r := by
  refine keeps_skipSpace (fun _ => inv.skipSpace) fun b => .ite (fun hb => ?_) fun _ => keeps_error _
  rw [hb]
  exact inv.keeps_readMember hvalue

/-- The members of an object, up to the brace that closes it. -/
theorem keeps_readMembers_closing {value : Reader Json} (hvalue : Keeps (A n) value fun _ => B n) :
    Keeps (A n) (readMembers value) fun ms r => (∀ m ∈ ms, K m.1) ∧ B n (closeBrace :: r) := by
  have hmore : Keeps (B n) (fun t => readMoreMembers value t t)
      fun ms r => (∀ m ∈ ms, K m.1) ∧ B n (closeBrace :: r) := by
    intro t ms r h ht
    simp only [readMoreMembers_eq] at h
    exact inv.keeps_readMore (E := fun r => B n (closeBrace :: r)) (inv.keeps_readNextMember hvalue)
      (fun _ => id) _ _ t t ms r h ht
  refine keeps_skipSpace (fun _ => inv.skipSpace) fun b => .ite (fun hb => ?_) fun _ =>
    .ite (fun hb => ?_) fun _ => keeps_error _
  · rw [hb]
    exact keeps_ok fun r hr => ⟨by simp, inv.behind hr⟩
  · rw [hb]
    refine (inv.keeps_readMember hvalue).bind fun m => (hmore.frame (K m.1)).bind fun ms =>
      keeps_ok fun r hr => ?_
    exact ⟨List.forall_mem_cons.mpr ⟨hr.1, hr.2.1⟩, hr.2.2⟩

/-- The members of an object with `n` objects around it. -/
theorem keeps_readMembers {value : Reader Json} (hvalue : Keeps (A (n + 1)) value fun _ => B (n + 1)) :
    Keeps (A (n + 1)) (readMembers value) fun ms r => (∀ m ∈ ms, K m.1) ∧ A n r :=
  (inv.keeps_readMembers_closing hvalue).weaken (fun _ => id) fun _ _ h => ⟨h.1, inv.closes h.2⟩

theorem keeps_readObject {levels : Nat}
    (hvalue : Keeps (A (n + 1)) (readValue levels) fun _ => B (n + 1)) :
    Keeps (A (n + 1)) (readObject (readValue levels)) fun _ => A n := by
  intro s v r h hs
  obtain ⟨ms, hms, -⟩ := readObject_eq_ok.mp h
  exact (inv.keeps_readMembers hvalue _ _ _ hms hs).2

/-! ### Values -/

/-- One level: the values in containers are read by the level below. -/
theorem keeps_readRest {levels : Nat}
    (hbelow : ∀ below, levels = below + 1 → ∀ n, Keeps (A n) (readValue below) fun _ => B n)
    (b : UInt8) : Keeps (fun r => A n (b :: r)) (readRest levels b) fun _ => B n := by
  have hword : ∀ (b : UInt8) (es : Octets) (v : Json), (∀ x ∈ b :: es, IsOrdinary x) →
      Keeps (fun r => A n (b :: r)) (fun s => do
        let r ← readLiteral es s
        .ok (v, r)) fun _ => B n := by
    intro b es v hes
    obtain ⟨hb, hes⟩ := List.forall_mem_cons.mp hes
    exact (inv.keeps_literal hes v).weaken (fun _ => inv.ordinary hb) fun _ _ => inv.behind
  refine .ite (fun hb => ?_) fun _ => .ite (fun hb => ?_) fun _ => .ite (fun hb => ?_) fun _ =>
    .ite (fun _ => ?_) fun _ => .ite (fun hb => ?_) fun _ => .ite (fun hb => ?_) fun _ =>
      .ite (fun hb => ?_) fun _ => keeps_error _
  · rw [hb]
    exact hword _ _ _ (by decide +kernel)
  · rw [hb]
    exact hword _ _ _ (by decide +kernel)
  · rw [hb]
    exact hword _ _ _ (by decide +kernel)
  · have hnumber : Keeps (fun r => A n (b :: r)) (fun r => readNumber (b :: r)) fun _ => B n :=
      fun s v r h hs => inv.behind (inv.keeps_readNumber (b :: s) v r h hs)
    exact hnumber.bind fun token => keeps_ok fun _ => id
  · rw [hb]
    exact inv.keeps_readString.bind fun text => keeps_ok fun _ h => h.2
  · rw [hb]
    cases levels with
    | zero => exact keeps_error _
    | succ below =>
      exact ((inv.keeps_readItems (hbelow below rfl n)).weaken (fun _ => inv.ordinary (by decide))
        fun _ _ => id).bind fun vs => keeps_ok fun _ => id
  · rw [hb]
    cases levels with
    | zero => exact keeps_error _
    | succ below =>
      exact (inv.keeps_readObject (hbelow below rfl (n + 1))).weaken (fun _ => inv.opens)
        fun _ _ => inv.behind

/-- Every value keeps the invariant. -/
theorem keeps_readValue (levels : Nat) : ∀ n, Keeps (A n) (readValue levels) fun _ => B n := by
  have step : ∀ levels, (∀ below, levels = below + 1 → ∀ n, Keeps (A n) (readValue below) fun _ => B n) →
      ∀ n, Keeps (A n) (readValue levels) fun _ => B n := by
    intro levels hbelow n
    simp only [funext (readValue_eq levels)]
    exact keeps_skipSpace (fun _ => inv.skipSpace) (inv.keeps_readRest hbelow)
  induction levels with
  | zero => exact step 0 (fun below h => by omega)
  | succ levels ih =>
    apply step
    intro below h
    obtain rfl : levels = below := by omega
    exact ih

end ReadInvariant

end ListingCrawl.Json
