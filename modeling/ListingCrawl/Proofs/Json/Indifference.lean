import ListingCrawl.Proofs.Json.Respelling

/-! The reader takes the same value from two texts that differ in nothing but how control characters are
spelled in string literals. A reader has this property from one place of the scanner to another; it passes
from the parts of a reader to the whole. -/

namespace ListingCrawl.Json

open Octets

variable {α β : Type} {q q' q'' : Quoting} {b : UInt8} {s s' : Octets}

/-! ### Respelled texts -/

theorem IsControlEscape.ne_nil {e : Octets} (h : IsControlEscape b e) : e ≠ [] := by
  cases h <;> simp

/-- Outside string literals and behind a backslash the next octet stays. -/
theorem Respells.cons_of_ne_inside (h : Respells q (b :: s) s') (hq : q ≠ .inside) :
    ∃ t, s' = b :: t ∧ Respells (q.next b) s t := by
  generalize hw : b :: s = w at h
  cases h with
  | nil => cases hw
  | keep h =>
    obtain ⟨rfl, rfl⟩ := List.cons.inj hw
    exact ⟨_, rfl, h⟩
  | escape => exact absurd rfl hq

/-- Inside a string literal the next octet stays, or it is a control character, or it begins an escape
that stands for the same control character as the one in its place. -/
theorem Respells.cons_inside (h : Respells .inside (b :: s) s') :
    (∃ t, s' = b :: t ∧ Respells (Quoting.inside.next b) s t) ∨ b < 0x20 ∨
      (b = backslash ∧ ∃ c < 0x20, ∃ r u t, s' = backslash :: u ∧ readEscape s = .ok ([c], r) ∧
        readEscape u = .ok ([c], t) ∧ Respells .inside r t) := by
  generalize hw : b :: s = w at h
  generalize hq : Quoting.inside = q at h
  cases h with
  | nil => cases hw
  | keep h =>
    obtain ⟨rfl, rfl⟩ := List.cons.inj hw
    exact .inl ⟨_, rfl, hq ▸ h⟩
  | @escape c e e' r t hc he he' h =>
    obtain rfl | he := he
    · obtain ⟨rfl, rfl⟩ := List.cons.inj hw
      exact .inr (.inl hc)
    · obtain ⟨x, rfl, hx⟩ := he.read hc
      obtain ⟨x', rfl, hx'⟩ := he'.read hc
      obtain ⟨rfl, rfl⟩ := List.cons.inj hw
      exact .inr (.inr ⟨rfl, c, hc, r, x' ++ t, t, rfl, hx r, hx' t, h⟩)

theorem Respells.cons_plain (h : Respells .inside (b :: s) s') (hb : IsPlain b) :
    ∃ t, s' = b :: t ∧ Respells .inside s t := by
  obtain ⟨t, rfl, ht⟩ | hlow | ⟨hback, -⟩ := h.cons_inside
  · rw [Quoting.next_inside hb.1 hb.2.1] at ht
    exact ⟨t, rfl, ht⟩
  · exact absurd hlow hb.2.2
  · exact absurd hback hb.2.1

theorem Respells.append {c r : Octets} (hc : quote ∉ c) (h : Respells .outside (c ++ r) s') :
    ∃ t, s' = c ++ t ∧ Respells .outside r t := by
  induction c generalizing s' with
  | nil => exact ⟨s', rfl, h⟩
  | cons b c ih =>
    rw [List.mem_cons, not_or] at hc
    obtain ⟨t, rfl, ht⟩ := h.cons_of_ne_inside (by decide)
    rw [Quoting.next_outside (Ne.symm hc.1)] at ht
    obtain ⟨u, rfl, hu⟩ := ih hc.2 ht
    exact ⟨u, rfl, hu⟩

theorem Respells.eq_nil (h : Respells q [] s') : s' = [] := by
  generalize hw : ([] : Octets) = w at h
  cases h with
  | nil => rfl
  | keep => cases hw
  | escape _ he =>
    obtain rfl | he := he
    · cases hw
    · exact absurd (List.append_eq_nil_iff.mp hw.symm).1 he.ne_nil

theorem Respells.head? (h : Respells .outside s s') : s'.head? = s.head? := by
  cases s with
  | nil => rw [h.eq_nil]
  | cons b s =>
    obtain ⟨t, rfl, -⟩ := h.cons_of_ne_inside (by decide)
    rfl

/-- Octets of a kind are the same in both texts, if quotes are of another kind. -/
theorem Respells.span {p : UInt8 → Bool} (hp : p quote = false) (h : Respells .outside s s') :
    s'.takeWhile p = s.takeWhile p ∧ Respells .outside (s.dropWhile p) (s'.dropWhile p) := by
  induction s generalizing s' with
  | nil =>
    rw [h.eq_nil]
    exact ⟨rfl, .nil _⟩
  | cons b s ih =>
    by_cases hb : p b = true
    · have hne : b ≠ quote := by
        rintro rfl
        simp [hp] at hb
      obtain ⟨t, rfl, ht⟩ := h.cons_of_ne_inside (by decide)
      rw [Quoting.next_outside hne] at ht
      simpa [hb] using ih ht
    · obtain ⟨t, rfl, -⟩ := h.cons_of_ne_inside (by decide)
      simpa [hb] using h

/-! ### Indifferent readers -/

/-- A reader that, at the place `q`, takes the same from a respelled text, up to the place `q'`. -/
def Indifferent (p : Reader α) (q q' : Quoting) : Prop :=
  ∀ s s' v r, Respells q s s' → p s = .ok (v, r) → ∃ r', p s' = .ok (v, r') ∧ Respells q' r r'

theorem indifferent_ok (v : α) (q : Quoting) : Indifferent (fun r => .ok (v, r)) q q := by
  intro s s' v r hs h
  cases h
  exact ⟨s', rfl, hs⟩

theorem indifferent_error (e : ReadError) : Indifferent (fun _ => (.error e :
    Except ReadError (α × Octets))) q q' := by
  intro s s' v r _ h
  cases h

theorem Indifferent.bind {p : Reader α} {f : α × Octets → Except ReadError (β × Octets)}
    (hp : Indifferent p q q') (hf : ∀ v, Indifferent (fun r => f (v, r)) q' q'') :
    Indifferent (fun s => p s >>= f) q q'' := by
  intro s s' x r hs h
  rw [bind_eq_ok] at h
  obtain ⟨⟨v, t⟩, hv, h⟩ := h
  obtain ⟨t', hv', ht⟩ := hp _ _ _ _ hs hv
  obtain ⟨r', hr', hr⟩ := hf v _ _ _ _ ht h
  exact ⟨r', bind_eq_ok.mpr ⟨_, hv', hr'⟩, hr⟩

theorem Indifferent.ite {c : Prop} [Decidable c] {p p' : Reader α} (hp : c → Indifferent p q q')
    (hp' : ¬c → Indifferent p' q q') : Indifferent (fun s => if c then p s else p' s) q q' := by
  by_cases h : c
  · simpa only [if_pos h] using hp h
  · simpa only [if_neg h] using hp' h

/-- A reader goes on with the next octet in its hand. -/
theorem Indifferent.cons {p : Reader α} (hp : Indifferent p q q') (b : UInt8) :
    Indifferent (fun s => p (b :: s)) (q.next b) q' :=
  fun _ _ v r hs h => hp _ _ v r (.keep hs) h

/-- A reader that decides by the next octet. -/
theorem indifferent_of_cons {p : Reader α} (hq : q ≠ .inside) (hnil : ∀ v r, p [] = .ok (v, r) → r = [])
    (hcons : ∀ b, Indifferent (fun s => p (b :: s)) (q.next b) q') : Indifferent p q q' := by
  intro s s' v r hs h
  cases s with
  | nil =>
    obtain rfl := hnil v r h
    rw [hs.eq_nil]
    exact ⟨[], h, .nil _⟩
  | cons b s =>
    obtain ⟨t, rfl, ht⟩ := hs.cons_of_ne_inside hq
    exact hcons b _ _ v r ht h

/-- A reader that passes over white space and decides by the next octet. -/
theorem indifferent_skipSpace {k : UInt8 → Reader α} {e : ReadError}
    (hk : ∀ b, Indifferent (k b) (Quoting.outside.next b) q) :
    Indifferent (fun s => match skipSpace s with
      | [] => .error e
      | b :: r => k b r) .outside q := by
  intro s s' v r hs h
  have hskip : Respells .outside (skipSpace s) (skipSpace s') := (hs.span (by decide)).2
  dsimp only at h ⊢
  cases hfirst : skipSpace s with
  | nil =>
    rw [hfirst] at h
    cases h
  | cons b t =>
    rw [hfirst] at h hskip
    obtain ⟨t', ht', ht⟩ := hskip.cons_of_ne_inside (by decide)
    rw [ht']
    exact hk b _ _ v r ht h

/-- A loop takes the same from a respelled text with the same fuel, and the text itself is fuel enough. -/
theorem ClosedLoop.indifferent {p : Octets → Reader α} (hp : ClosedLoop p)
    (h : ∀ fuel, Indifferent (p fuel) q q') : Indifferent (fun s => p s s) q q' := by
  intro s s' v r hs hread
  obtain ⟨r', hread', hr⟩ := h s _ _ _ _ hs hread
  obtain ⟨c, -, rfl, hc⟩ := hp _ _ _ _ hread'
  exact ⟨r', hc _ r' (by simp), hr⟩

/-! ### Strings -/

theorem indifferent_readHex4 : Indifferent readHex4 .inside .inside := by
  intro s s' n r hs h
  unfold readHex4 at h
  split at h
  · next a b c d r₀ =>
    split at h
    · next ha hb hc hd =>
      cases h
      obtain ⟨s₁, rfl, h₁⟩ := hs.cons_plain (isPlain_of_hexValue? ha)
      obtain ⟨s₂, rfl, h₂⟩ := h₁.cons_plain (isPlain_of_hexValue? hb)
      obtain ⟨s₃, rfl, h₃⟩ := h₂.cons_plain (isPlain_of_hexValue? hc)
      obtain ⟨s₄, rfl, h₄⟩ := h₃.cons_plain (isPlain_of_hexValue? hd)
      exact ⟨s₄, by simp only [readHex4, ha, hb, hc, hd], h₄⟩
    · cases h
  · cases h

theorem indifferent_readLowDigits (high : Nat) :
    Indifferent (readLowDigits high) .inside .inside := by
  unfold readLowDigits
  exact indifferent_readHex4.bind fun low =>
    .ite (fun _ => indifferent_ok _ _) fun _ => indifferent_error _

/-- The second half of a surrogate pair is no escape of a control character. -/
theorem readEscape_of_readLowDigits {high : Nat} {x y : Octets × Octets}
    (h : readLowDigits high s = .ok x) : readEscape (0x75 :: s) ≠ .ok y := by
  rw [readLowDigits, bind_eq_ok] at h
  obtain ⟨⟨low, t⟩, hlow, h⟩ := h
  dsimp only at h
  split at h
  case isFalse => cases h
  next hrange =>
  have hread : readEscape (0x75 :: s) = readUnicode s := rfl
  rw [hread, readUnicode, hlow]
  simp only [bind, Except.bind]
  rw [if_pos hrange]
  simp

theorem indifferent_readLowSurrogate (high : Nat) :
    Indifferent (readLowSurrogate high) .inside .inside := by
  intro s s' o r hs h
  obtain ⟨s, rfl, hlow⟩ := readLowSurrogate_eq_ok.mp h
  obtain ⟨w, rfl, hw⟩ | hctl | ⟨-, c, -, u, -, -, -, hescape, -⟩ := hs.cons_inside
  · obtain ⟨u, rfl, hu⟩ := hw.cons_of_ne_inside (by decide)
    obtain ⟨t, hlow', ht⟩ := indifferent_readLowDigits high _ _ _ _ hu hlow
    exact ⟨t, readLowSurrogate_eq_ok.mpr ⟨u, rfl, hlow'⟩, ht⟩
  · exact absurd hctl (by decide)
  · exact absurd hescape (readEscape_of_readLowDigits hlow)

theorem indifferent_readUnicode : Indifferent readUnicode .inside .inside := by
  unfold readUnicode
  exact indifferent_readHex4.bind fun n =>
    .ite (fun _ => indifferent_error _) fun _ =>
      .ite (fun _ => indifferent_readLowSurrogate n) fun _ => indifferent_ok _ _

theorem indifferent_readEscape : Indifferent readEscape .escaped .inside := by
  refine indifferent_of_cons (by decide) (by simp [readEscape]) fun b => ?_
  exact .ite (fun _ => indifferent_ok _ _) fun _ =>
    .ite (fun _ => indifferent_ok _ _) fun _ =>
      .ite (fun _ => indifferent_ok _ _) fun _ =>
        .ite (fun _ => indifferent_ok _ _) fun _ =>
          .ite (fun _ => indifferent_ok _ _) fun _ =>
            .ite (fun _ => indifferent_ok _ _) fun _ =>
              .ite (fun _ => indifferent_readUnicode) fun _ => indifferent_error _

/-- The content of a literal. An escape of a control character may stand in the place of another, and the
scanner is inside the literal behind both. -/
theorem indifferent_readContent (fuel : Octets) : Indifferent (readContent fuel) .inside .outside := by
  induction fuel with
  | nil =>
    intro s s' o r _ h
    cases h
  | cons _ fuel ih =>
    intro s s' o r hs h
    cases s with
    | nil => cases h
    | cons b s =>
      simp only [readContent] at h
      obtain ⟨t, rfl, ht⟩ | hctl | ⟨rfl, c, -, s₁, u, t, rfl, hescape, hescape', ht⟩ := hs.cons_inside
      · have hkeep : Indifferent (fun s => readContent (0 :: fuel) (b :: s)) (Quoting.inside.next b)
            .outside := by
          refine .ite (fun hb => ?_) fun hquote => .ite (fun hb => ?_) fun hback =>
            .ite (fun _ => indifferent_error _) fun _ => ?_
          · subst hb
            exact indifferent_ok _ _
          · subst hb
            exact indifferent_readEscape.bind fun c => ih.bind fun cs => indifferent_ok (c ++ cs) _
          · rw [Quoting.next_inside hquote hback]
            exact ih.bind fun cs => indifferent_ok (b :: cs) _
        exact hkeep _ _ _ _ ht h
      · -- a raw control character is not read at all
        have hquote : b ≠ quote := ne_of_control hctl (by decide)
        have hback : b ≠ backslash := ne_of_control hctl (by decide)
        rw [if_neg hquote, if_neg hback, if_pos hctl] at h
        cases h
      · rw [if_neg (by decide), if_pos rfl, hescape] at h
        obtain ⟨t', hread, ht'⟩ := (ih.bind fun cs => indifferent_ok ([c] ++ cs) _) _ _ _ _ ht h
        refine ⟨t', ?_, ht'⟩
        simp only [readContent]
        rw [if_neg (by decide), if_pos trivial, hescape']
        exact hread

theorem indifferent_readString : Indifferent readString .inside .outside := by
  unfold readString
  refine (closedLoop_readContent.indifferent indifferent_readContent).bind fun content => ?_
  dsimp only
  cases toText? content with
  | none => exact indifferent_error _
  | some text => exact indifferent_ok _ _

/-! ### Numbers and literals -/

theorem indifferent_readDigits : Indifferent readDigits .outside .outside := by
  intro s s' ds r hs h
  obtain ⟨htake, hdrop⟩ := hs.span (p := isDigit) (by decide)
  unfold readDigits at h ⊢
  rw [htake]
  split at h
  · cases h
  · cases h
    exact ⟨_, rfl, hdrop⟩

theorem indifferent_readInteger : Indifferent readInteger .outside .outside := by
  unfold readInteger
  exact indifferent_readDigits.bind fun ds =>
    .ite (fun _ => indifferent_error _) fun _ => indifferent_ok _ _

theorem indifferent_readFraction : Indifferent readFraction .outside .outside := by
  refine indifferent_of_cons (by decide) (by simp [readFraction]) fun b => ?_
  refine .ite (fun hb => ?_) fun _ => (indifferent_ok [] _).cons b
  rw [hb]
  exact indifferent_readDigits.bind fun ds => indifferent_ok (0x2e :: ds) _

/-- A reader that begins behind a sign, if there is one. -/
theorem indifferent_sign {k : Option UInt8 → Reader α} {P : Option UInt8 → Prop} [DecidablePred P]
    (hP : ∀ o, P o → ∃ b, o = some b ∧ b ≠ quote) (hk : ∀ o, Indifferent (k o) .outside q) :
    Indifferent (fun s => k s.head? (if P s.head? then List.tail s else s)) .outside q := by
  intro s s' v r hs h
  have hrest : Respells .outside (if P s.head? then List.tail s else s)
      (if P s.head? then List.tail s' else s') := by
    split
    · next hp =>
      obtain ⟨b, hb, hne⟩ := hP _ hp
      obtain ⟨s, rfl⟩ := List.head?_eq_some_iff.mp hb
      obtain ⟨t, rfl, ht⟩ := hs.cons_of_ne_inside (by decide)
      rwa [Quoting.next_outside hne] at ht
    · exact hs
  dsimp only at h ⊢
  rw [hs.head?]
  exact hk _ _ _ v r hrest h

/-- What follows the letter of an exponent and its sign; `first` is what stood behind the letter. -/
def readPower (first : Option UInt8) (s : Octets) : Except ReadError (Octets × Octets) := do
  let (ds, r) ← readDigits s
  .ok (0x65 :: (if first = some 0x2d then 0x2d else 0x2b) :: ds, r)

theorem indifferent_readPower (first : Option UInt8) :
    Indifferent (readPower first) .outside .outside := by
  unfold readPower
  exact indifferent_readDigits.bind fun ds => indifferent_ok _ _

theorem indifferent_readExponent : Indifferent readExponent .outside .outside := by
  refine indifferent_of_cons (by decide) (by simp [readExponent]) fun b => ?_
  refine .ite (fun hb => ?_) fun _ => (indifferent_ok [] _).cons b
  have hplace : Quoting.outside.next b = .outside := by
    obtain rfl | rfl := hb <;> rfl
  rw [hplace]
  refine indifferent_sign (P := fun o => o = some 0x2d ∨ o = some 0x2b) (k := readPower) ?_
    indifferent_readPower
  rintro o (rfl | rfl)
  · exact ⟨0x2d, rfl, by decide⟩
  · exact ⟨0x2b, rfl, by decide⟩

/-- What follows the sign of a number; `first` is the octet that the number begins with. -/
def readUnsigned (first : Option UInt8) (s : Octets) : Except ReadError (String × Octets) := do
  let (int, r) ← readInteger s
  let (frac, r) ← readFraction r
  let (exp, r) ← readExponent r
  let sign : Octets := if first = some 0x2d then [0x2d] else []
  .ok (String.ofList ((sign ++ int ++ frac ++ exp).map fun b => Char.ofNat b.toNat), r)

theorem readNumber_eq (s : Octets) : readNumber s =
    readUnsigned s.head? (if s.head? = some 0x2d then List.tail s else s) := by
  have hdrop : s.drop (if s.head? = some 0x2d then [(0x2d : UInt8)] else []).length =
      if s.head? = some 0x2d then List.tail s else s := by
    split <;> simp
  rw [readNumber, readUnsigned, hdrop]

theorem indifferent_readUnsigned (first : Option UInt8) :
    Indifferent (readUnsigned first) .outside .outside := by
  unfold readUnsigned
  exact indifferent_readInteger.bind fun int => indifferent_readFraction.bind fun frac =>
    indifferent_readExponent.bind fun exp => indifferent_ok _ _

theorem indifferent_readNumber : Indifferent readNumber .outside .outside := by
  rw [funext readNumber_eq]
  refine indifferent_sign (P := fun o => o = some 0x2d) ?_ indifferent_readUnsigned
  rintro o rfl
  exact ⟨0x2d, rfl, by decide⟩

theorem indifferent_literal {es : Octets} (hes : quote ∉ es) (v : α) :
    Indifferent (fun s => do
      let r ← readLiteral es s
      .ok (v, r)) .outside .outside := by
  intro s s' x r hs h
  rw [bind_eq_ok] at h
  obtain ⟨t, ht, h⟩ := h
  cases h
  rw [readLiteral_eq_ok.mp ht] at hs
  obtain ⟨r', rfl, hr⟩ := hs.append hes
  exact ⟨r', bind_eq_ok.mpr ⟨r', readLiteral_eq_ok.mpr rfl, rfl⟩, hr⟩

/-! ### Containers -/

theorem indifferent_readMore {next : Reader α} (hnext : Indifferent next .outside .outside)
    {close : UInt8} (hclose : close ≠ quote) (atEnd other : ReadError) (fuel : Octets) :
    Indifferent (readMore next close atEnd other fuel) .outside .outside := by
  induction fuel with
  | nil => exact indifferent_error _
  | cons _ fuel ih =>
    refine indifferent_skipSpace fun b => ?_
    refine .ite (fun hb => ?_) fun _ => .ite (fun hb => ?_) fun _ => indifferent_error _
    · rw [hb, Quoting.next_outside hclose]
      exact indifferent_ok _ _
    · rw [hb]
      exact hnext.bind fun v => ih.bind fun vs => indifferent_ok (v :: vs) _

theorem indifferent_readNextItem {item : Reader Json} (hitem : Indifferent item .outside .outside) :
    Indifferent (readNextItem item) .outside .outside :=
  indifferent_skipSpace fun b => .ite (fun _ => indifferent_error _) fun _ => hitem.cons b

theorem indifferent_readMoreItems {item : Reader Json} (hlocal : Local item)
    (hitem : Indifferent item .outside .outside) :
    Indifferent (fun s => readMoreItems item s s) .outside .outside := by
  refine (closedLoop_readMoreItems hlocal).indifferent fun fuel => ?_
  simp only [funext (readMoreItems_eq item fuel)]
  exact indifferent_readMore (indifferent_readNextItem hitem) (by decide) _ _ fuel

theorem indifferent_readItems {item : Reader Json} (hlocal : Local item)
    (hitem : Indifferent item .outside .outside) : Indifferent (readItems item) .outside .outside := by
  refine indifferent_skipSpace fun b => .ite (fun hb => ?_) fun _ => ?_
  · rw [hb]
    exact indifferent_ok _ _
  · exact (hitem.cons b).bind fun v =>
      (indifferent_readMoreItems hlocal hitem).bind fun vs => indifferent_ok (v :: vs) _

theorem indifferent_readMember {value : Reader Json} (hvalue : Indifferent value .outside .outside) :
    Indifferent (readMember value) .inside .outside := by
  unfold readMember
  refine indifferent_readString.bind fun key => indifferent_skipSpace fun b =>
    .ite (fun hb => ?_) fun _ => indifferent_error _
  rw [hb]
  exact hvalue.bind fun v => indifferent_ok (key, v) _

theorem indifferent_readNextMember {value : Reader Json}
    (hvalue : Indifferent value .outside .outside) :
    Indifferent (readNextMember value) .outside .outside := by
  refine indifferent_skipSpace fun b => .ite (fun hb => ?_) fun _ => indifferent_error _
  rw [hb]
  exact indifferent_readMember hvalue

theorem indifferent_readMoreMembers {value : Reader Json} (hlocal : Local value)
    (hvalue : Indifferent value .outside .outside) :
    Indifferent (fun s => readMoreMembers value s s) .outside .outside := by
  refine (closedLoop_readMoreMembers hlocal).indifferent fun fuel => ?_
  simp only [funext (readMoreMembers_eq value fuel)]
  exact indifferent_readMore (indifferent_readNextMember hvalue) (by decide) _ _ fuel

theorem indifferent_readMembers {value : Reader Json} (hlocal : Local value)
    (hvalue : Indifferent value .outside .outside) :
    Indifferent (readMembers value) .outside .outside := by
  refine indifferent_skipSpace fun b => .ite (fun hb => ?_) fun _ =>
    .ite (fun hb => ?_) fun _ => indifferent_error _
  · rw [hb]
    exact indifferent_ok _ _
  · rw [hb]
    exact (indifferent_readMember hvalue).bind fun m =>
      (indifferent_readMoreMembers hlocal hvalue).bind fun ms => indifferent_ok (m :: ms) _

theorem indifferent_readObject {levels : Nat} (hlocal : Local (readValue levels))
    (hvalue : Indifferent (readValue levels) .outside .outside) :
    Indifferent (readObject (readValue levels)) .outside .outside := by
  intro s s' v r hs h
  obtain ⟨ms, hms, hv⟩ := readObject_eq_ok.mp h
  obtain ⟨r', hms', hr⟩ := indifferent_readMembers hlocal hvalue _ _ _ _ hs hms
  exact ⟨r', readObject_eq_ok.mpr ⟨ms, hms', hv⟩, hr⟩

/-! ### Values -/

/-- One level: the values in containers are read by the level below. -/
theorem indifferent_readRest {levels : Nat}
    (hbelow : ∀ below, levels = below + 1 → Indifferent (readValue below) .outside .outside)
    (b : UInt8) : Indifferent (readRest levels b) (Quoting.outside.next b) .outside := by
  refine .ite (fun hb => ?_) fun _ => .ite (fun hb => ?_) fun _ => .ite (fun hb => ?_) fun _ =>
    .ite (fun _ => ?_) fun _ => .ite (fun hb => ?_) fun _ => .ite (fun hb => ?_) fun _ =>
      .ite (fun hb => ?_) fun _ => indifferent_error _
  · rw [hb]
    exact indifferent_literal (by decide) _
  · rw [hb]
    exact indifferent_literal (by decide) _
  · rw [hb]
    exact indifferent_literal (by decide) _
  · exact (indifferent_readNumber.cons b).bind fun token => indifferent_ok (Json.number token) _
  · rw [hb]
    exact indifferent_readString.bind fun text => indifferent_ok (Json.string text) _
  · rw [hb]
    cases levels with
    | zero => exact indifferent_error _
    | succ below =>
      exact (indifferent_readItems (local_readValue below) (hbelow below rfl)).bind fun vs =>
        indifferent_ok (Json.array vs) _
  · rw [hb]
    cases levels with
    | zero => exact indifferent_error _
    | succ below => exact indifferent_readObject (local_readValue below) (hbelow below rfl)

/-- How control characters are spelled does not matter to the reader. -/
theorem indifferent_readValue (levels : Nat) : Indifferent (readValue levels) .outside .outside := by
  have step : ∀ levels, (∀ below, levels = below + 1 →
      Indifferent (readValue below) .outside .outside) →
      Indifferent (readValue levels) .outside .outside := by
    intro levels hbelow
    simp only [funext (readValue_eq levels)]
    exact indifferent_skipSpace (indifferent_readRest hbelow)
  induction levels with
  | zero => exact step 0 (fun below h => by omega)
  | succ levels ih =>
    apply step
    intro below h
    obtain rfl : levels = below := by omega
    exact ih

end ListingCrawl.Json
