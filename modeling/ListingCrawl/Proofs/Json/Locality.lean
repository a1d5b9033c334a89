import ListingCrawl.Proofs.Json.HeldNumber

/-! The readers of JSON look no further than they must. What a reader took from the front of a text it
takes as well from any other text with this front; only after a number does it look at the next octet.
So a value is read in the same way inside a part of a text and in the whole text. -/

namespace ListingCrawl.Json

open Octets

variable {α : Type}

/-- A reader that looks at most at the octet after what it reads. -/
def Local (p : Reader α) : Prop :=
  ∀ s v r, p s = .ok (v, r) →
    ∃ c, s = c ++ r ∧ ∀ t, t.head? = r.head? → p (c ++ t) = .ok (v, t)

/-- A reader that reads at least one octet and looks at nothing behind it. -/
def Closed (p : Reader α) : Prop :=
  ∀ s v r, p s = .ok (v, r) → ∃ c, c ≠ [] ∧ s = c ++ r ∧ ∀ t, p (c ++ t) = .ok (v, t)

/-- A loop that is closed, for which the octets that it reads are fuel enough. -/
def ClosedLoop (p : Octets → Reader α) : Prop :=
  ∀ fuel s v r, p fuel s = .ok (v, r) → ∃ c, c ≠ [] ∧ s = c ++ r ∧
    ∀ fuel' t, c.length ≤ fuel'.length → p fuel' (c ++ t) = .ok (v, t)

theorem Closed.local {p : Reader α} (hp : Closed p) : Local p := by
  intro s v r h
  obtain ⟨c, -, hs, hc⟩ := hp s v r h
  exact ⟨c, hs, fun t _ => hc t⟩

/-- A loop that starts with the text as its fuel. -/
theorem ClosedLoop.closed {p : Octets → Reader α} (hp : ClosedLoop p) : Closed fun s => p s s := by
  intro s v r h
  obtain ⟨c, hne, hs, hc⟩ := hp s s v r h
  exact ⟨c, hne, hs, fun t => hc _ t (by simp)⟩

theorem head?_append_congr {c r t : Octets} (h : t.head? = r.head?) :
    (c ++ t).head? = (c ++ r).head? := by
  rw [List.head?_append, List.head?_append, h]

/-- What is read from `b :: s` begins with `b` whatever follows it. -/
theorem append_eq_cons {b : UInt8} {s c r t : Octets} (hs : b :: s = c ++ r)
    (h : t.head? = r.head?) : ∃ u, c ++ t = b :: u := by
  apply List.head?_eq_some_iff.mp
  rw [head?_append_congr h, ← hs, List.head?_cons]

theorem isSpace_of_skipSpace {s r : Octets} {b : UInt8} (h : skipSpace s = b :: r) :
    isSpace b = false := by
  have hd := List.head?_dropWhile_not isSpace s
  rw [skipSpace] at h
  rw [h] at hd
  simpa using hd

theorem skipSpace_eq_cons {s r : Octets} {b : UInt8} (h : skipSpace s = b :: r) :
    ∃ ws, s = ws ++ b :: r ∧ ∀ t, skipSpace (ws ++ b :: t) = b :: t := by
  have hb := isSpace_of_skipSpace h
  refine ⟨s.takeWhile isSpace, ?_, ?_⟩
  · rw [← h, skipSpace, List.takeWhile_append_dropWhile]
  · intro t
    have hw : ∀ a ∈ s.takeWhile isSpace, isSpace a = true := 
      List.all_eq_true.mp List.all_takeWhile
    rw [skipSpace, List.dropWhile_append_of_pos hw, List.dropWhile_cons_of_neg (by simp [hb])]

/-! ### Strings -/

theorem closed_readHex4 : Closed readHex4 := by
  intro s v r h
  unfold readHex4 at h
  split at h
  · next a b c d r' =>
    split at h
    · next ha hb hc hd =>
      cases h
      exact ⟨[a, b, c, d], by simp, rfl, fun t => by simp [readHex4, ha, hb, hc, hd]⟩
    · cases h
  · cases h

/-- The digits of the second half of a surrogate pair. -/
def readLowDigits (high : Nat) (s : Octets) : Except ReadError (Octets × Octets) := do
  let (low, r) ← readHex4 s
  if 0xdc00 ≤ low ∧ low ≤ 0xdfff then
    .ok (ofChar (Char.ofNat ((high - 0xd800) * 1024 + (low - 0xdc00) + 0x10000)), r)
  else .error .loneSurrogate

theorem readLowSurrogate_eq_ok {high : Nat} {s : Octets} {x : Octets × Octets} :
    readLowSurrogate high s = .ok x ↔ ∃ r, s = backslash :: 0x75 :: r ∧ readLowDigits high r = .ok x := by
  constructor
  · intro h
    unfold readLowSurrogate at h
    split at h
    · cases h
    · next b s =>
      split at h
      case isFalse => cases h
      next hb =>
      split at h
      · cases h
      · next u s =>
        split at h
        case isFalse => cases h
        next hu =>
        exact ⟨s, by rw [hb, hu], h⟩
  · rintro ⟨r, rfl, h⟩
    exact h

theorem closed_readLowSurrogate (high : Nat) : Closed (readLowSurrogate high) := by
  intro s v r h
  obtain ⟨t, rfl, hdigits⟩ := readLowSurrogate_eq_ok.mp h
  rw [readLowDigits, bind_eq_ok] at hdigits
  obtain ⟨⟨low, u⟩, hlow, hread⟩ := hdigits
  obtain ⟨c, -, rfl, hc⟩ := closed_readHex4 _ _ _ hlow
  dsimp only at hread
  split at hread
  · next hrange =>
    obtain ⟨rfl, rfl⟩ := Prod.mk.inj (Except.ok.inj hread)
    refine ⟨backslash :: 0x75 :: c, by simp, rfl, fun t => ?_⟩
    refine readLowSurrogate_eq_ok.mpr ⟨c ++ t, rfl, ?_⟩
    simp only [readLowDigits, hc, bind, Except.bind, if_pos hrange]
  · cases hread

theorem closed_readUnicode : Closed readUnicode := by
  intro s v r h
  rw [readUnicode, bind_eq_ok] at h
  obtain ⟨⟨n, r₁⟩, hn, h⟩ := h
  obtain ⟨c, hne, rfl, hc⟩ := closed_readHex4 _ _ _ hn
  dsimp only at h
  split at h
  · cases h
  · next hlow =>
    split at h
    · next hhigh =>
      obtain ⟨d, -, rfl, hd⟩ := closed_readLowSurrogate n _ _ _ h
      refine ⟨c ++ d, by simp [hne], by simp, fun t => ?_⟩
      simp [readUnicode, hc, hd, hlow, hhigh, bind, Except.bind]
    · next hhigh =>
      cases h
      refine ⟨c, hne, rfl, fun t => ?_⟩
      simp [readUnicode, hc, hlow, hhigh, bind, Except.bind]

theorem closed_readEscape : Closed readEscape := by
  intro s v r h
  cases s with
  | nil => cases h
  | cons b s =>
    by_cases hu : b = 0x75
    · subst hu
      obtain ⟨c, -, rfl, hc⟩ := closed_readUnicode _ _ _ h
      exact ⟨0x75 :: c, by simp, rfl, hc⟩
    · -- every other escape is one octet, which decides alone what it stands for
      have hr : readEscape (b :: s) = .ok (v, r) → s = r ∧ ∀ t, readEscape (b :: t) = .ok (v, t) := by
        simp only [readEscape, if_neg hu]
        repeat' split
        all_goals
          intro h
          cases h
        all_goals exact ⟨rfl, fun _ => rfl⟩
      obtain ⟨rfl, ht⟩ := hr h
      exact ⟨[b], by simp, rfl, ht⟩

theorem closedLoop_readContent : ClosedLoop readContent := by
  intro fuel
  induction fuel with
  | nil =>
    intro s v r h
    cases h
  | cons _ fuel ih =>
    intro s v r h
    cases s with
    | nil => cases h
    | cons b s =>
      simp only [readContent] at h
      split at h
      · next hq =>
        cases h
        refine ⟨[b], by simp, rfl, fun fuel' t hf => ?_⟩
        cases fuel' with
        | nil => simp at hf
        | cons _ fuel' => simp [readContent, hq]
      · next hq =>
        split at h
        · next hb =>
          simp only [bind_eq_ok] at h
          obtain ⟨⟨e, r₁⟩, he, ⟨cs, r₂⟩, hcs, h⟩ := h
          cases h
          obtain ⟨c, -, rfl, hc⟩ := closed_readEscape _ _ _ he
          obtain ⟨d, -, rfl, hd⟩ := ih _ _ _ hcs
          refine ⟨b :: (c ++ d), by simp, by simp, fun fuel' t hf => ?_⟩
          cases fuel' with
          | nil => simp at hf
          | cons _ fuel' =>
            simp only [List.length_cons, List.length_append] at hf
            simp only [List.cons_append, List.append_assoc, readContent, if_neg hq, if_pos hb, hc,
              hd fuel' t (by omega), bind, Except.bind]
        · next hb =>
          split at h
          · cases h
          · next hctl =>
            simp only [bind_eq_ok] at h
            obtain ⟨⟨cs, r₂⟩, hcs, h⟩ := h
            cases h
            obtain ⟨d, -, rfl, hd⟩ := ih _ _ _ hcs
            refine ⟨b :: d, by simp, rfl, fun fuel' t hf => ?_⟩
            cases fuel' with
            | nil => simp at hf
            | cons _ fuel' =>
              simp only [List.length_cons] at hf
              simp [readContent, hq, hb, hctl, hd fuel' t (by omega), bind, Except.bind]

theorem closed_readString : Closed readString := by
  intro s v r h
  rw [readString, bind_eq_ok] at h
  obtain ⟨⟨content, r₁⟩, hs, h⟩ := h
  obtain ⟨c, hne, rfl, hc⟩ := closedLoop_readContent.closed _ _ _ hs
  dsimp only at h
  split at h
  · next text ht =>
    cases h
    exact ⟨c, hne, rfl, fun t => by simp [readString, hc, ht, bind, Except.bind]⟩
  · cases h

/-! ### Numbers and literals -/

theorem takeWhile_of_head? {p : UInt8 → Bool} {s t : Octets}
    (h : t.head? = (s.dropWhile p).head?) : t.takeWhile p = [] ∧ t.dropWhile p = t := by
  have hd := List.head?_dropWhile_not p s
  rw [← h] at hd
  cases t with
  | nil => exact ⟨rfl, rfl⟩
  | cons b t =>
    have hb : p b = false := by simpa using hd
    simp [hb]

theorem local_readDigits : Local readDigits := by
  intro s v r h
  have hds : ∀ a ∈ s.takeWhile isDigit, isDigit a = true := List.all_eq_true.mp List.all_takeWhile
  unfold readDigits at h
  split at h
  · cases h
  · next hne =>
    cases h
    refine ⟨s.takeWhile isDigit, List.takeWhile_append_dropWhile.symm, fun t ht => ?_⟩
    obtain ⟨ht₁, ht₂⟩ := takeWhile_of_head? ht
    rw [readDigits, List.takeWhile_append_of_pos hds, List.dropWhile_append_of_pos hds, ht₁, ht₂,
      List.append_nil]
    split
    · contradiction
    · rfl

theorem local_readInteger : Local readInteger := by
  intro s v r h
  rw [readInteger, bind_eq_ok] at h
  obtain ⟨⟨ds, r₁⟩, hd, h⟩ := h
  obtain ⟨c, rfl, hc⟩ := local_readDigits _ _ _ hd
  dsimp only at h
  split at h
  · cases h
  · next hz =>
    cases h
    refine ⟨c, rfl, fun t ht => ?_⟩
    simp only [readInteger, hc t ht, bind, Except.bind, if_neg hz]

theorem local_readFraction : Local readFraction := by
  intro s v r h
  cases s with
  | nil =>
    cases h
    exact ⟨[], rfl, fun t ht => by simp_all [readFraction]⟩
  | cons b s =>
    simp only [readFraction] at h
    split at h
    · next hb =>
      rw [bind_eq_ok] at h
      obtain ⟨⟨ds, r₁⟩, hd, h⟩ := h
      cases h
      obtain ⟨c, rfl, hc⟩ := local_readDigits _ _ _ hd
      refine ⟨b :: c, rfl, fun t ht => ?_⟩
      simp only [List.cons_append, readFraction, if_pos hb, hc t ht, bind, Except.bind]
    · next hb =>
      cases h
      refine ⟨[], rfl, fun t ht => ?_⟩
      obtain ⟨t, rfl⟩ := List.head?_eq_some_iff.mp ht
      simp only [List.nil_append, readFraction, if_neg hb]

theorem local_readExponent : Local readExponent := by
  intro s v r h
  cases s with
  | nil =>
    cases h
    exact ⟨[], rfl, fun t ht => by simp_all [readExponent]⟩
  | cons b s =>
    simp only [readExponent] at h
    split at h
    · next hb =>
      rw [bind_eq_ok] at h
      obtain ⟨⟨ds, r₁⟩, hd, h⟩ := h
      cases h
      obtain ⟨c, hs, hc⟩ := local_readDigits _ _ _ hd
      by_cases hsign : s.head? = some 0x2d ∨ s.head? = some 0x2b
      · cases s with
        | nil => simp at hsign
        | cons x s =>
          rw [if_pos hsign, List.tail_cons] at hs
          subst hs
          refine ⟨b :: x :: c, rfl, fun t ht => ?_⟩
          have hsign' : (x :: (c ++ t)).head? = some 0x2d ∨ (x :: (c ++ t)).head? = some 0x2b := hsign
          simp only [List.cons_append, readExponent, if_pos hb, if_pos hsign', List.tail_cons,
            hc t ht, bind, Except.bind]
          rfl
      · rw [if_neg hsign] at hs
        subst hs
        refine ⟨b :: c, rfl, fun t ht => ?_⟩
        have hh := head?_append_congr (c := c) ht
        simp only [List.cons_append, readExponent, if_pos hb, hh, if_neg hsign, hc t ht, bind,
          Except.bind]
    · next hb =>
      cases h
      refine ⟨[], rfl, fun t ht => ?_⟩
      obtain ⟨t, rfl⟩ := List.head?_eq_some_iff.mp ht
      simp only [List.nil_append, readExponent, if_neg hb]

theorem local_readNumber : Local readNumber := by
  intro s v r h
  simp only [readNumber, bind_eq_ok] at h
  obtain ⟨⟨int, r₁⟩, hi, ⟨frac, r₂⟩, hf, ⟨exp, r₃⟩, he, h⟩ := h
  cases h
  obtain ⟨c, hs, hc⟩ := local_readInteger _ _ _ hi
  obtain ⟨d, rfl, hd⟩ := local_readFraction _ _ _ hf
  obtain ⟨e, rfl, hx⟩ := local_readExponent _ _ _ he
  have hrest : ∀ t, t.head? = r₃.head? →
      readInteger (c ++ (d ++ (e ++ t))) = .ok (int, d ++ (e ++ t)) ∧
      readFraction (d ++ (e ++ t)) = .ok (frac, e ++ t) ∧ readExponent (e ++ t) = .ok (exp, t) := by
    intro t ht
    have hte := head?_append_congr (c := e) ht
    have htd := head?_append_congr (c := d) hte
    exact ⟨hc _ htd, hd _ hte, hx t ht⟩
  by_cases hsign : s.head? = some 0x2d
  · cases s with
    | nil => simp at hsign
    | cons b s =>
      rw [if_pos hsign, List.length_singleton, List.drop_one, List.tail_cons] at hs
      subst hs
      refine ⟨b :: (c ++ (d ++ e)), by simp, fun t ht => ?_⟩
      obtain ⟨h₁, h₂, h₃⟩ := hrest t ht
      rw [List.head?_cons] at hsign
      simp [readNumber, hsign, h₁, h₂, h₃, bind, Except.bind]
  · rw [if_neg hsign, List.length_nil, List.drop_zero] at hs
    subst hs
    refine ⟨c ++ (d ++ e), by simp, fun t ht => ?_⟩
    obtain ⟨h₁, h₂, h₃⟩ := hrest t ht
    have hh : (c ++ (d ++ (e ++ t))).head? = (c ++ (d ++ (e ++ r₃))).head? :=
      head?_append_congr (head?_append_congr (head?_append_congr ht))
    simp only [readNumber, List.append_assoc, hh, if_neg hsign, List.length_nil, List.drop_zero, h₁,
      h₂, h₃, bind, Except.bind]

theorem Local.length_le {p : Reader α} (hp : Local p) {s r : Octets} {v : α}
    (h : p s = .ok (v, r)) : r.length ≤ s.length := by
  obtain ⟨c, rfl, -⟩ := hp s v r h
  simp

theorem length_of_readInteger {s ds r : Octets} (h : readInteger s = .ok (ds, r)) :
    r.length < s.length := by
  rw [readInteger, bind_eq_ok] at h
  obtain ⟨⟨ds', r'⟩, hd, h⟩ := h
  obtain rfl : r' = r := by
    dsimp only at h
    split at h <;> cases h
    rfl
  unfold readDigits at hd
  split at hd
  · cases hd
  · next hne =>
    cases hd
    have hs : (s.takeWhile isDigit ++ s.dropWhile isDigit).length = s.length := by
      rw [List.takeWhile_append_dropWhile]
    have hp : 0 < (s.takeWhile isDigit).length := List.length_pos_iff.mpr hne
    rw [List.length_append] at hs
    omega

/-- A number has at least one octet. -/
theorem length_of_readNumber {s r : Octets} {token : String} (h : readNumber s = .ok (token, r)) :
    r.length < s.length := by
  simp only [readNumber, bind_eq_ok] at h
  obtain ⟨⟨int, r₁⟩, hi, ⟨frac, r₂⟩, hf, ⟨exp, r₃⟩, he, h⟩ := h
  cases h
  have h₁ := length_of_readInteger hi
  have h₂ := local_readFraction.length_le hf
  have h₃ := local_readExponent.length_le he
  rw [List.length_drop] at h₁
  dsimp only at h₂ h₃ ⊢
  omega

theorem readLiteral_eq_ok {es s r : Octets} : readLiteral es s = .ok r ↔ s = es ++ r := by
  induction es generalizing s with
  | nil => simp [readLiteral]
  | cons e es ih =>
    cases s with
    | nil => simp [readLiteral]
    | cons b s =>
      by_cases hb : b = e
      · simp [readLiteral, hb, ih]
      · simp [readLiteral, hb]

/-! ### Containers -/

theorem head?_append_of_ne_nil {c : Octets} (hc : c ≠ []) (r t : Octets) :
    (c ++ t).head? = (c ++ r).head? := by
  cases c with
  | nil => contradiction
  | cons b c => rfl

/-- What follows the first element of a container: each further element behind a comma, then the end. -/
def readMore (next : Reader α) (close : UInt8) (atEnd other : ReadError) : Octets → Reader (List α)
  | [], _ => .error atEnd
  | _ :: fuel, s =>
    match skipSpace s with
    | [] => .error atEnd
    | b :: r =>
      if b = close then .ok ([], r)
      else if b = comma then do
        let (v, t) ← next r
        let (vs, t) ← readMore next close atEnd other fuel t
        .ok (v :: vs, t)
      else .error other

theorem closedLoop_readMore {next : Reader α} (hnext : Local next) (close : UInt8)
    (atEnd other : ReadError) : ClosedLoop (readMore next close atEnd other) := by
  intro fuel
  induction fuel with
  | nil =>
    intro s v r h
    cases h
  | cons _ fuel ih =>
    intro s v r h
    rw [readMore] at h
    split at h
    · cases h
    · next b r₁ hs =>
      obtain ⟨ws, rfl, hws⟩ := skipSpace_eq_cons hs
      split at h
      · next hb =>
        cases h
        refine ⟨ws ++ [b], by simp, by simp, fun fuel' t hf => ?_⟩
        cases fuel' with
        | nil => simp at hf
        | cons _ fuel' =>
          simp only [List.append_assoc, List.cons_append, List.nil_append, readMore, hws, if_pos hb]
      · next hb =>
        split at h
        · next hc =>
          simp only [bind_eq_ok] at h
          obtain ⟨⟨x, r₂⟩, hx, ⟨xs, r₃⟩, hxs, h⟩ := h
          cases h
          obtain ⟨d, rfl, hlocal⟩ := hnext _ _ _ hx
          obtain ⟨e, hne, rfl, hloop⟩ := ih _ _ _ hxs
          refine ⟨ws ++ b :: (d ++ e), by simp, by simp, fun fuel' t hf => ?_⟩
          cases fuel' with
          | nil => simp at hf
          | cons _ fuel' =>
            simp only [List.length_cons, List.length_append] at hf
            -- the rest of the loop begins with the same octet whatever follows the container
            have hx' := hlocal _ (head?_append_of_ne_nil hne r₃ t)
            simp only [List.append_assoc, List.cons_append, readMore, hws, if_neg hb, if_pos hc, hx',
              hloop fuel' t (by omega), bind, Except.bind]
        · cases h

/-- An item behind a comma. -/
def readNextItem (item : Reader Json) : Reader Json := fun r =>
  match skipSpace r with
  | [] => .error .endInValue
  | c :: t => if c = closeBracket then .error .trailingComma else item (c :: t)

theorem local_readNextItem {item : Reader Json} (hitem : Local item) : Local (readNextItem item) := by
  intro s v r h
  unfold readNextItem at h
  split at h
  · cases h
  · next c t hs =>
    obtain ⟨ws, rfl, hws⟩ := skipSpace_eq_cons hs
    split at h
    · cases h
    · next hclose =>
      obtain ⟨d, hd, hlocal⟩ := hitem _ _ _ h
      refine ⟨ws ++ d, by simp [hd], fun t ht => ?_⟩
      have hi := hlocal t ht
      obtain ⟨u, hu⟩ := append_eq_cons hd ht
      rw [hu] at hi
      simp only [List.append_assoc, readNextItem, hu, hws, if_neg hclose, hi]

theorem readMoreItems_eq (item : Reader Json) (fuel s : Octets) : readMoreItems item fuel s =
    readMore (readNextItem item) closeBracket .endInArray .expectedArrayEnd fuel s := by
  induction fuel generalizing s with
  | nil => rfl
  | cons _ fuel ih =>
    rw [readMoreItems, readMore]
    cases skipSpace s with
    | nil => rfl
    | cons b r =>
      by_cases hclose : b = closeBracket
      · simp only [if_pos hclose]
      by_cases hcomma : b = comma
      · simp only [if_neg hclose, if_pos hcomma, readNextItem, ih]
        cases skipSpace r with
        | nil => rfl
        | cons c t =>
          dsimp only
          split <;> rfl
      · simp only [if_neg hclose, if_neg hcomma]

theorem closedLoop_readMoreItems {item : Reader Json} (hitem : Local item) :
    ClosedLoop (readMoreItems item) := by
  intro fuel s v r h
  simp only [readMoreItems_eq] at h ⊢
  exact closedLoop_readMore (local_readNextItem hitem) _ _ _ fuel s v r h

theorem closed_readItems {item : Reader Json} (hitem : Local item) : Closed (readItems item) := by
  intro s v r h
  unfold readItems at h
  split at h
  · cases h
  · next b r₁ hs =>
    obtain ⟨ws, rfl, hws⟩ := skipSpace_eq_cons hs
    split at h
    · next hb =>
      cases h
      refine ⟨ws ++ [b], by simp, by simp, fun t => ?_⟩
      simp only [List.append_assoc, List.cons_append, List.nil_append, readItems, hws, if_pos hb]
    · next hb =>
      simp only [bind_eq_ok] at h
      obtain ⟨⟨x, r₂⟩, hx, ⟨xs, r₃⟩, hxs, h⟩ := h
      cases h
      obtain ⟨d, hd, hlocal⟩ := hitem _ _ _ hx
      obtain ⟨e, hne, rfl, hloop⟩ := (closedLoop_readMoreItems hitem).closed _ _ _ hxs
      refine ⟨ws ++ (d ++ e), by simp [hne], by simp [hd], fun t => ?_⟩
      have hh := head?_append_of_ne_nil hne r₃ t
      have hi := hlocal _ hh
      obtain ⟨u, hu⟩ := append_eq_cons hd hh
      rw [hu] at hi
      simp only [List.append_assoc, readItems, hu, hws, if_neg hb, hi, hloop t, bind, Except.bind]

theorem local_readMember {value : Reader Json} (hvalue : Local value) : Local (readMember value) := by
  intro s v r h
  rw [readMember, bind_eq_ok] at h
  obtain ⟨⟨key, r₁⟩, hk, h⟩ := h
  obtain ⟨c, -, rfl, hc⟩ := closed_readString _ _ _ hk
  dsimp only at h
  split at h
  · cases h
  · next b r₂ hs =>
    obtain ⟨ws, rfl, hws⟩ := skipSpace_eq_cons hs
    split at h
    · next hb =>
      rw [bind_eq_ok] at h
      obtain ⟨⟨x, r₃⟩, hx, h⟩ := h
      cases h
      obtain ⟨d, rfl, hd⟩ := hvalue _ _ _ hx
      refine ⟨c ++ (ws ++ b :: d), by simp, fun t ht => ?_⟩
      simp only [List.append_assoc, List.cons_append, readMember, hc, hws, if_pos hb, hd t ht, bind,
        Except.bind]
    · cases h

/-- A member behind a comma. -/
def readNextMember (value : Reader Json) : Reader (String × Json) := fun r =>
  match skipSpace r with
  | [] => .error .endInValue
  | c :: t =>
    if c = quote then readMember value t
    else .error (if c = closeBrace then .trailingComma else .keyNotString)

theorem local_readNextMember {value : Reader Json} (hvalue : Local value) :
    Local (readNextMember value) := by
  intro s v r h
  unfold readNextMember at h
  split at h
  · cases h
  · next c t hs =>
    obtain ⟨ws, rfl, hws⟩ := skipSpace_eq_cons hs
    split at h
    · next hquote =>
      obtain ⟨d, rfl, hlocal⟩ := local_readMember hvalue _ _ _ h
      refine ⟨ws ++ c :: d, by simp, fun t ht => ?_⟩
      simp only [List.append_assoc, List.cons_append, readNextMember, hws, if_pos hquote, hlocal t ht]
    · cases h

theorem readMoreMembers_eq (value : Reader Json) (fuel s : Octets) : readMoreMembers value fuel s =
    readMore (readNextMember value) closeBrace .endInObject .expectedObjectEnd fuel s := by
  induction fuel generalizing s with
  | nil => rfl
  | cons _ fuel ih =>
    rw [readMoreMembers, readMore]
    cases skipSpace s with
    | nil => rfl
    | cons b r =>
      by_cases hclose : b = closeBrace
      · simp only [if_pos hclose]
      by_cases hcomma : b = comma
      · simp only [if_neg hclose, if_pos hcomma, readNextMember, ih]
        cases skipSpace r with
        | nil => rfl
        | cons c t =>
          dsimp only
          split <;> rfl
      · simp only [if_neg hclose, if_neg hcomma]

theorem closedLoop_readMoreMembers {value : Reader Json} (hvalue : Local value) :
    ClosedLoop (readMoreMembers value) := by
  intro fuel s v r h
  simp only [readMoreMembers_eq] at h ⊢
  exact closedLoop_readMore (local_readNextMember hvalue) _ _ _ fuel s v r h

theorem closed_readMembers {value : Reader Json} (hvalue : Local value) :
    Closed (readMembers value) := by
  intro s v r h
  unfold readMembers at h
  split at h
  · cases h
  · next b r₁ hs =>
    obtain ⟨ws, rfl, hws⟩ := skipSpace_eq_cons hs
    split at h
    · next hb =>
      cases h
      refine ⟨ws ++ [b], by simp, by simp, fun t => ?_⟩
      simp only [List.append_assoc, List.cons_append, List.nil_append, readMembers, hws, if_pos hb]
    · next hb =>
      split at h
      · next hquote =>
        simp only [bind_eq_ok] at h
        obtain ⟨⟨m, r₂⟩, hm, ⟨ms, r₃⟩, hms, h⟩ := h
        cases h
        obtain ⟨d, rfl, hlocal⟩ := local_readMember hvalue _ _ _ hm
        obtain ⟨e, hne, rfl, hloop⟩ := (closedLoop_readMoreMembers hvalue).closed _ _ _ hms
        refine ⟨ws ++ b :: (d ++ e), by simp, by simp, fun t => ?_⟩
        have hm' := hlocal _ (head?_append_of_ne_nil hne r₃ t)
        simp only [List.append_assoc, List.cons_append, readMembers, hws, if_neg hb, if_pos hquote,
          hm', hloop t, bind, Except.bind]
      · cases h

theorem closed_readObject {levels : Nat} (hvalue : Local (readValue levels)) :
    Closed (readObject (readValue levels)) := by
  intro s v r h
  obtain ⟨ms, hms, hv⟩ := readObject_eq_ok.mp h
  obtain ⟨c, hne, hs, hc⟩ := closed_readMembers hvalue _ _ _ hms
  exact ⟨c, hne, hs, fun t => readObject_eq_ok.mpr ⟨ms, hc t, hv⟩⟩

/-! ### Values -/

/-- What is read of a value after its first octet `b`. -/
def readRest (levels : Nat) (b : UInt8) : Reader Json := fun r =>
  if b = 0x6e then do
    let r ← readLiteral [0x75, 0x6c, 0x6c] r
    .ok (.null, r)
  else if b = 0x74 then do
    let r ← readLiteral [0x72, 0x75, 0x65] r
    .ok (.bool true, r)
  else if b = 0x66 then do
    let r ← readLiteral [0x61, 0x6c, 0x73, 0x65] r
    .ok (.bool false, r)
  else if b = 0x2d ∨ isDigit b then do
    let (token, r) ← readNumber (b :: r)
    .ok (.number token, r)
  else if b = quote then do
    let (text, r) ← readString r
    .ok (.string text, r)
  else if b = openBracket then
    match levels with
    | 0 => .error .tooDeep
    | levels + 1 => do
      let (items, r) ← readItems (readValue levels) r
      .ok (.array items, r)
  else if b = openBrace then
    match levels with
    | 0 => .error .tooDeep
    | levels + 1 => readObject (readValue levels) r
  else .error .expectedValue

theorem readValue_eq (levels : Nat) (s : Octets) : readValue levels s =
    match skipSpace s with
    | [] => .error .endInValue
    | b :: r => readRest levels b r := by
  rw [readValue.eq_def]
  rfl

theorem local_error (e : ReadError) : Local fun _ => (.error e : Except ReadError (α × Octets)) := by
  intro s v r h
  cases h

theorem local_literal (es : Octets) (v : α) :
    Local (fun s => do
      let r ← readLiteral es s
      .ok (v, r)) := by
  intro s x r h
  rw [bind_eq_ok] at h
  obtain ⟨r, hr, h⟩ := h
  cases h
  refine ⟨es, readLiteral_eq_ok.mp hr, fun t _ => ?_⟩
  simp only [readLiteral_eq_ok.mpr rfl, bind, Except.bind]

theorem Local.map {β : Type} {p : Reader α} (hp : Local p) (f : α → β) :
    Local (fun s => do
      let (v, r) ← p s
      .ok (f v, r)) := by
  intro s x r h
  rw [bind_eq_ok] at h
  obtain ⟨⟨v, r⟩, hv, h⟩ := h
  cases h
  obtain ⟨c, hs, hc⟩ := hp _ _ _ hv
  refine ⟨c, hs, fun t ht => ?_⟩
  simp only [hc t ht, bind, Except.bind]

/-- A number that begins with an octet that is read already. -/
theorem local_readNumber_cons (b : UInt8) : Local fun r => readNumber (b :: r) := by
  intro s v r h
  obtain ⟨c, hs, hc⟩ := local_readNumber _ _ _ h
  have hlt := length_of_readNumber h
  cases c with
  | nil =>
    rw [List.nil_append] at hs
    rw [hs] at hlt
    omega
  | cons a c =>
    obtain ⟨rfl, rfl⟩ := List.cons.inj hs
    exact ⟨c, rfl, hc⟩

/-- One level: the values in containers are read by the level below. -/
theorem local_readRest {levels : Nat}
    (hbelow : ∀ below, levels = below + 1 → Local (readValue below)) (b : UInt8) :
    Local (readRest levels b) := by
  unfold readRest
  by_cases hnull : b = 0x6e
  · simp only [if_pos hnull]
    exact local_literal _ _
  by_cases htrue : b = 0x74
  · simp only [if_neg hnull, if_pos htrue]
    exact local_literal _ _
  by_cases hfalse : b = 0x66
  · simp only [if_neg hnull, if_neg htrue, if_pos hfalse]
    exact local_literal _ _
  by_cases hnumber : b = 0x2d ∨ isDigit b = true
  · simp only [if_neg hnull, if_neg htrue, if_neg hfalse, if_pos hnumber]
    exact (local_readNumber_cons b).map Json.number
  by_cases hquote : b = quote
  · simp only [if_neg hnull, if_neg htrue, if_neg hfalse, if_neg hnumber, if_pos hquote]
    exact closed_readString.local.map Json.string
  by_cases harray : b = openBracket
  · simp only [if_neg hnull, if_neg htrue, if_neg hfalse, if_neg hnumber, if_neg hquote,
      if_pos harray]
    cases levels with
    | zero => exact local_error _
    | succ below => exact (closed_readItems (hbelow below rfl)).local.map Json.array
  by_cases hobject : b = openBrace
  · simp only [if_neg hnull, if_neg htrue, if_neg hfalse, if_neg hnumber, if_neg hquote,
      if_neg harray, if_pos hobject]
    cases levels with
    | zero => exact local_error _
    | succ below => exact (closed_readObject (hbelow below rfl)).local
  simp only [if_neg hnull, if_neg htrue, if_neg hfalse, if_neg hnumber, if_neg hquote,
    if_neg harray, if_neg hobject]
  exact local_error _

theorem local_readValue (levels : Nat) : Local (readValue levels) := by
  have step : ∀ levels, (∀ below, levels = below + 1 → Local (readValue below)) →
      Local (readValue levels) := by
    intro levels hbelow s v r h
    rw [readValue_eq] at h
    split at h
    · cases h
    · next b r₁ hs =>
      obtain ⟨ws, rfl, hws⟩ := skipSpace_eq_cons hs
      obtain ⟨c, rfl, hc⟩ := local_readRest hbelow b _ _ _ h
      refine ⟨ws ++ b :: c, by simp, fun t ht => ?_⟩
      rw [readValue_eq, List.append_assoc, List.cons_append, hws]
      exact hc t ht
  induction levels with
  | zero => exact step 0 (fun below h => by omega)
  | succ levels ih =>
    apply step
    intro below h
    obtain rfl : levels = below := by omega
    exact ih

end ListingCrawl.Json
