import Mathlib.Data.List.Basic
import ListingCrawl.Proofs.Json.Locality
import ListingCrawl.Proofs.Text.Decoding

/-! Numbers as the reader notes them. A token that came out of the reader is read as itself, if what
follows it can end a value: only its exponent is noted in another way than it may have been written. -/

namespace ListingCrawl.Json

open Octets

/-- One or more digits. -/
structure Digits where
  octets : Octets
  ne_nil : octets ≠ []
  isDigit_of_mem : ∀ b ∈ octets, isDigit b = true

/-- The parts of a number. -/
structure Numeral where
  isNegative : Bool
  whole : Digits
  noLeadingZero : ¬(whole.octets.length > 1 ∧ whole.octets.head? = some 0x30)
  fraction : Option Digits
  exponent : Option (Bool × Digits)

namespace Numeral

def signOctets (isNegative : Bool) : Octets :=
  if isNegative then [0x2d] else []

def fractionOctets : Option Digits → Octets
  | none => []
  | some ds => 0x2e :: ds.octets

def exponentOctets : Option (Bool × Digits) → Octets
  | none => []
  | some (isNegative, ds) => 0x65 :: (if isNegative then 0x2d else 0x2b) :: ds.octets

def octets (n : Numeral) : Octets :=
  signOctets n.isNegative ++ n.whole.octets ++ fractionOctets n.fraction ++ exponentOctets n.exponent

/-- The number as its token. -/
def token (n : Numeral) : String :=
  String.ofList (n.octets.map fun b => Char.ofNat b.toNat)

end Numeral

/-- A token that the reader notes for a number. -/
def IsToken (token : String) : Prop :=
  ∃ n : Numeral, token = n.token

/-! ### Octets -/

theorem ofChar_ofNat : ∀ n < 0x80, ofChar (Char.ofNat n) = [UInt8.ofNat n] := by
  decide

/-- ASCII octets taken for characters are encoded as themselves. -/
theorem ofChars_ascii {bs : Octets} (hbs : ∀ b ∈ bs, b.toNat < 0x80) :
    ofChars (bs.map fun b => Char.ofNat b.toNat) = bs := by
  induction bs with
  | nil => rfl
  | cons b bs ih =>
    obtain ⟨hb, hbs⟩ := List.forall_mem_cons.mp hbs
    rw [List.map_cons, ofChars_cons, ih hbs, ofChar_ofNat _ hb, UInt8.ofNat_toNat]
    rfl

theorem toNat_of_isDigit {b : UInt8} (h : isDigit b = true) : 0x30 ≤ b.toNat ∧ b.toNat ≤ 0x39 := by
  simpa [isDigit, UInt8.le_iff_toNat_le] using h

theorem ne_of_isDigit {b c : UInt8} (hb : isDigit b = true) (hc : isDigit c = false) : b ≠ c := by
  rintro rfl
  rw [hb] at hc
  cases hc

theorem Digits.exists_first (ds : Digits) : ∃ b r, ds.octets = b :: r ∧ isDigit b = true := by
  obtain ⟨b, r, h⟩ := List.exists_cons_of_ne_nil ds.ne_nil
  exact ⟨b, r, h, ds.isDigit_of_mem b (h ▸ List.mem_cons_self)⟩

/-- The range of what the reader notes for numbers: digits, signs, a point and the letter of an exponent. -/
def IsNoted (b : UInt8) : Prop :=
  0x2b ≤ b.toNat ∧ b.toNat ≤ 0x65

theorem Digits.isNoted_of_mem (ds : Digits) {b : UInt8} (hb : b ∈ ds.octets) : IsNoted b := by
  have := toNat_of_isDigit (ds.isDigit_of_mem b hb)
  exact ⟨by omega, by omega⟩

namespace Numeral

theorem isNoted_of_mem_signOctets {isNegative : Bool} {b : UInt8} (h : b ∈ signOctets isNegative) :
    IsNoted b := by
  cases isNegative with
  | false => cases h
  | true =>
    rw [List.mem_singleton.mp h, IsNoted]
    decide

theorem isNoted_of_mem_fractionOctets {f : Option Digits} {b : UInt8} (h : b ∈ fractionOctets f) :
    IsNoted b := by
  cases f with
  | none => cases h
  | some ds =>
    obtain rfl | h := List.mem_cons.mp h
    · rw [IsNoted]
      decide
    · exact ds.isNoted_of_mem h

theorem isNoted_of_mem_exponentOctets {e : Option (Bool × Digits)} {b : UInt8}
    (h : b ∈ exponentOctets e) : IsNoted b := by
  cases e with
  | none => cases h
  | some e =>
    obtain ⟨isNegative, ds⟩ := e
    simp only [exponentOctets, List.mem_cons] at h
    obtain rfl | rfl | h := h
    · rw [IsNoted]
      decide
    · rw [IsNoted]
      cases isNegative <;> decide
    · exact ds.isNoted_of_mem h

theorem isNoted_of_mem_octets {n : Numeral} {b : UInt8} (h : b ∈ n.octets) : IsNoted b := by
  simp only [octets, List.mem_append] at h
  obtain ((h | h) | h) | h := h
  · exact isNoted_of_mem_signOctets h
  · exact n.whole.isNoted_of_mem h
  · exact isNoted_of_mem_fractionOctets h
  · exact isNoted_of_mem_exponentOctets h

/-- A number begins with a minus sign or a digit. -/
theorem head_octets (n : Numeral) : ∃ b r, n.octets = b :: r ∧ (b = 0x2d ∨ isDigit b = true) := by
  obtain ⟨b, r, hw, hb⟩ := n.whole.exists_first
  cases hs : n.isNegative with
  | false =>
    refine ⟨b, r ++ fractionOctets n.fraction ++ exponentOctets n.exponent, ?_, .inr hb⟩
    simp [octets, signOctets, hs, hw]
  | true =>
    refine ⟨0x2d, n.whole.octets ++ fractionOctets n.fraction ++ exponentOctets n.exponent, ?_, .inl rfl⟩
    simp [octets, signOctets, hs]

/-- The octets of the token are those of the number. -/
theorem ofText_token (n : Numeral) : ofText n.token = n.octets := by
  rw [ofText, token, String.toList_ofList]
  refine ofChars_ascii fun b hb => ?_
  have := (isNoted_of_mem_octets hb).2
  omega

end Numeral

/-! ### Reading a number again -/

/-- No digit comes next. -/
def NoDigit (u : Octets) : Prop :=
  ∀ b, u.head? = some b → isDigit b = false

/-- What follows a number does not belong to it. -/
structure EndsNumber (u : Octets) : Prop where
  digit : NoDigit u
  point : u.head? ≠ some 0x2e
  exponent : u.head? ≠ some 0x65 ∧ u.head? ≠ some 0x45

/-- What can follow a value ends a number. -/
theorem endsNumber_of_endsValue {u : Octets} (h : endsValue u = true) : EndsNumber u := by
  cases u with
  | nil => exact ⟨by simp [NoDigit], by simp, by simp⟩
  | cons b u =>
    have hb : isDigit b = false ∧ b ≠ 0x2e ∧ b ≠ 0x65 ∧ b ≠ 0x45 := by
      simp only [endsValue, isSpace, Bool.or_eq_true, beq_iff_eq] at h
      obtain ((((((((((rfl | rfl) | rfl) | rfl) | rfl) | rfl) | rfl) | rfl) | rfl) | rfl) | rfl) := h
      all_goals decide
    exact ⟨by simpa [NoDigit] using hb.1, by simpa using hb.2.1, by simpa using hb.2.2⟩

theorem readDigits_octets (ds : Digits) {u : Octets} (hu : NoDigit u) :
    readDigits (ds.octets ++ u) = .ok (ds.octets, u) := by
  have hstop : u.takeWhile isDigit = [] ∧ u.dropWhile isDigit = u := by
    cases u with
    | nil => exact ⟨rfl, rfl⟩
    | cons b u =>
      have hb := hu b rfl
      simp [hb]
  rw [readDigits, List.takeWhile_append_of_pos ds.isDigit_of_mem,
    List.dropWhile_append_of_pos ds.isDigit_of_mem, hstop.1, hstop.2, List.append_nil]
  split
  · next hnil => exact absurd hnil ds.ne_nil
  · rfl

theorem readFraction_octets (f : Option Digits) {u : Octets} (hu : NoDigit u)
    (hpoint : u.head? ≠ some 0x2e) :
    readFraction (Numeral.fractionOctets f ++ u) = .ok (Numeral.fractionOctets f, u) := by
  cases f with
  | none =>
    cases u with
    | nil => rfl
    | cons b u =>
      have hb : b ≠ 0x2e := fun h => hpoint (by rw [h]; rfl)
      simp only [Numeral.fractionOctets, List.nil_append, readFraction, if_neg hb]
  | some ds =>
    simp only [Numeral.fractionOctets, List.cons_append, readFraction, if_true,
      readDigits_octets ds hu, bind, Except.bind]

theorem readExponent_octets (e : Option (Bool × Digits)) {u : Octets} (hu : EndsNumber u) :
    readExponent (Numeral.exponentOctets e ++ u) = .ok (Numeral.exponentOctets e, u) := by
  cases e with
  | none =>
    cases u with
    | nil => rfl
    | cons b u =>
      have hb : ¬(b = 0x65 ∨ b = 0x45) := by
        rintro (rfl | rfl)
        · exact hu.exponent.1 rfl
        · exact hu.exponent.2 rfl
      simp only [Numeral.exponentOctets, List.nil_append, readExponent, if_neg hb]
  | some e =>
    obtain ⟨isNegative, ds⟩ := e
    have hdigits := readDigits_octets ds hu.digit
    cases isNegative with
    | false =>
      simp [Numeral.exponentOctets, readExponent, hdigits, bind, Except.bind]
    | true =>
      simp [Numeral.exponentOctets, readExponent, hdigits, bind, Except.bind]

namespace Numeral

/-- An exponent begins with a letter. -/
theorem noDigit_exponentOctets (e : Option (Bool × Digits)) {u : Octets} (hu : NoDigit u) :
    NoDigit (exponentOctets e ++ u) := by
  cases e with
  | none => exact hu
  | some e =>
    intro b hb
    obtain rfl := Option.some.inj hb
    decide

theorem head?_exponentOctets_ne (e : Option (Bool × Digits)) {u : Octets} (hu : u.head? ≠ some 0x2e) :
    (exponentOctets e ++ u).head? ≠ some 0x2e := by
  cases e with
  | none => exact hu
  | some e => simp [exponentOctets]

/-- A fraction begins with a point. -/
theorem noDigit_fractionOctets (f : Option Digits) {u : Octets} (hu : NoDigit u) :
    NoDigit (fractionOctets f ++ u) := by
  cases f with
  | none => exact hu
  | some ds =>
    intro b hb
    obtain rfl := Option.some.inj hb
    decide

/-- The sign is a part of its own: without it the first octet is a digit. -/
theorem head?_octets (n : Numeral) (u : Octets) :
    ((n.octets ++ u).head? = some 0x2d ↔ n.isNegative = true) := by
  obtain ⟨b, r, hw, hb⟩ := n.whole.exists_first
  have hne : b ≠ 0x2d := ne_of_isDigit hb (by decide)
  cases hs : n.isNegative <;> simp [octets, signOctets, hs, hw, hne]

end Numeral

/-- A number that the reader noted is read as it was noted. -/
theorem readNumber_octets (n : Numeral) {u : Octets} (hu : EndsNumber u) :
    readNumber (n.octets ++ u) = .ok (n.token, u) := by
  have hexp := readExponent_octets n.exponent hu
  have hdigit := Numeral.noDigit_exponentOctets n.exponent hu.digit
  have hfrac := readFraction_octets n.fraction hdigit
    (Numeral.head?_exponentOctets_ne n.exponent hu.point)
  have hwhole := readDigits_octets n.whole (Numeral.noDigit_fractionOctets n.fraction hdigit)
  generalize hafter : Numeral.exponentOctets n.exponent ++ u = after at hexp hfrac hwhole
  have hint : readInteger (n.whole.octets ++ (Numeral.fractionOctets n.fraction ++ after)) =
      .ok (n.whole.octets, Numeral.fractionOctets n.fraction ++ after) := by
    simp only [readInteger, hwhole, bind, Except.bind, if_neg n.noLeadingZero]
  have hsign : (if (n.octets ++ u).head? = some 0x2d then [0x2d] else []) =
      Numeral.signOctets n.isNegative := by
    simp only [Numeral.head?_octets, Numeral.signOctets]
  have hdrop : (n.octets ++ u).drop (Numeral.signOctets n.isNegative).length =
      n.whole.octets ++ (Numeral.fractionOctets n.fraction ++ after) := by
    rw [← hafter, Numeral.octets]
    simp only [List.append_assoc, List.drop_left]
  simp only [readNumber, hsign, hdrop, hint, hfrac, hexp, bind, Except.bind]
  rfl

/-! ### What the reader notes -/

theorem exists_digits {s ds r : Octets} (h : readDigits s = .ok (ds, r)) :
    ∃ d : Digits, d.octets = ds := by
  unfold readDigits at h
  split at h
  · cases h
  · next hne =>
    cases h
    exact ⟨⟨s.takeWhile isDigit, hne, List.all_eq_true.mp List.all_takeWhile⟩, rfl⟩

theorem exists_fraction {s f r : Octets} (h : readFraction s = .ok (f, r)) :
    ∃ ds, Numeral.fractionOctets ds = f := by
  cases s with
  | nil =>
    cases h
    exact ⟨none, rfl⟩
  | cons b s =>
    simp only [readFraction] at h
    split at h
    · next hb =>
      rw [bind_eq_ok] at h
      obtain ⟨⟨ds, r₁⟩, hd, h⟩ := h
      cases h
      obtain ⟨d, rfl⟩ := exists_digits hd
      exact ⟨some d, by rw [hb]; rfl⟩
    · cases h
      exact ⟨none, rfl⟩

theorem exists_exponent {s e r : Octets} (h : readExponent s = .ok (e, r)) :
    ∃ x, Numeral.exponentOctets x = e := by
  cases s with
  | nil =>
    cases h
    exact ⟨none, rfl⟩
  | cons b s =>
    simp only [readExponent] at h
    split at h
    · rw [bind_eq_ok] at h
      obtain ⟨⟨ds, r₁⟩, hd, h⟩ := h
      cases h
      obtain ⟨d, rfl⟩ := exists_digits hd
      by_cases hsign : s.head? = some 0x2d
      · exact ⟨some (true, d), by rw [if_pos hsign]; rfl⟩
      · exact ⟨some (false, d), by rw [if_neg hsign]; rfl⟩
    · cases h
      exact ⟨none, rfl⟩

/-- What is read as a number is noted as one. -/
theorem isToken_of_readNumber {s r : Octets} {token : String} (h : readNumber s = .ok (token, r)) :
    IsToken token := by
  simp only [readNumber, bind_eq_ok] at h
  obtain ⟨⟨int, r₁⟩, hi, ⟨frac, r₂⟩, hf, ⟨exp, r₃⟩, he, h⟩ := h
  cases h
  rw [readInteger, bind_eq_ok] at hi
  obtain ⟨⟨ds, r₀⟩, hd, hi⟩ := hi
  dsimp only at hi
  split at hi
  · cases hi
  · next hzero =>
    cases hi
    obtain ⟨d, rfl⟩ := exists_digits hd
    obtain ⟨f, rfl⟩ := exists_fraction hf
    obtain ⟨e, rfl⟩ := exists_exponent he
    by_cases hsign : s.head? = some 0x2d
    · exact ⟨⟨true, d, hzero, f, e⟩, by rw [if_pos hsign]; rfl⟩
    · exact ⟨⟨false, d, hzero, f, e⟩, by rw [if_neg hsign]; rfl⟩

theorem isToken_of_readNumeral {s : Octets} {token : String} (h : readNumeral s = .ok token) :
    IsToken token := by
  obtain ⟨⟨token', r⟩, hread, h⟩ := bind_eq_ok.mp h
  dsimp only at h
  split at h
  · cases h
    exact isToken_of_readNumber hread
  · cases h

/-! ### Natural numbers -/

/-- No decimal but zero begins with a zero. -/
theorem toDigits_zero_head {n : Nat} (h : (Nat.toDigits 10 n).head? = some '0') : n = 0 := by
  induction n using Nat.strongRecOn with
  | ind n ih =>
    by_cases hn : n < 10
    · rw [Nat.toDigits_of_lt_base hn, List.head?_cons, Option.some_inj] at h
      exact Nat.digitChar_eq_zero.mp h
    · rw [Nat.toDigits_of_base_le (by omega) (by omega),
        List.head?_append_of_ne_nil _ Nat.toDigits_ne_nil] at h
      have := ih (n / 10) (by omega) h
      omega

theorem toNat_of_mem_toDigits {n : Nat} {c : Char} (hc : c ∈ Nat.toDigits 10 n) :
    0x30 ≤ c.toNat ∧ c.toNat ≤ 0x39 :=
  Char.isDigit_iff_toNat.mp (Nat.isDigit_of_mem_toDigits (by omega) (by omega) hc)

theorem toNat_digitOctet {n : Nat} {c : Char} (hc : c ∈ Nat.toDigits 10 n) :
    (UInt8.ofNat c.toNat).toNat = c.toNat := by
  have := toNat_of_mem_toDigits hc
  exact toNat_ofNat_of_lt (by omega)

/-- The octets of a decimal. -/
def Digits.ofNat (n : Nat) : Digits where
  octets := (Nat.toDigits 10 n).map fun c => UInt8.ofNat c.toNat
  ne_nil := by simp
  isDigit_of_mem := by
    intro b hb
    obtain ⟨c, hc, rfl⟩ := List.mem_map.mp hb
    simp [isDigit, UInt8.le_iff_toNat_le, toNat_digitOctet hc, toNat_of_mem_toDigits hc]

theorem Digits.noLeadingZero_ofNat (n : Nat) :
    ¬((ofNat n).octets.length > 1 ∧ (ofNat n).octets.head? = some 0x30) := by
  rintro ⟨hlength, hzero⟩
  obtain ⟨c, r, hn⟩ := List.exists_cons_of_ne_nil (Nat.toDigits_ne_nil (n := n) (b := 10))
  have hmem : c ∈ Nat.toDigits 10 n := hn ▸ List.mem_cons_self
  have hc : c = '0' := by
    simp only [ofNat, hn, List.map_cons, List.head?_cons, Option.some_inj] at hzero
    have h := toNat_digitOctet hmem
    rw [hzero] at h
    exact Char.toNat_inj.mp h.symm
  obtain rfl := toDigits_zero_head (n := n) (by rw [hn, hc]; rfl)
  simp [ofNat] at hlength

/-- A natural number is written as the reader would note it. -/
theorem isToken_toString (n : Nat) : IsToken (toString n) := by
  refine ⟨⟨false, .ofNat n, Digits.noLeadingZero_ofNat n, none, none⟩, ?_⟩
  have hback : ((Nat.toDigits 10 n).map fun c => UInt8.ofNat c.toNat).map
      (fun b => Char.ofNat b.toNat) = Nat.toDigits 10 n := by
    rw [List.map_map]
    conv_rhs => rw [← List.map_id (Nat.toDigits 10 n)]
    refine List.map_congr_left fun c hc => ?_
    rw [Function.comp_apply, toNat_digitOctet hc, Char.ofNat_toNat, id]
  have hoctets : Numeral.octets ⟨false, .ofNat n, Digits.noLeadingZero_ofNat n, none, none⟩ =
      (Nat.toDigits 10 n).map fun c => UInt8.ofNat c.toNat := by
    simp [Numeral.octets, Numeral.signOctets, Numeral.fractionOctets, Numeral.exponentOctets,
      Digits.ofNat]
  rw [Numeral.token, hoctets, hback]
  rfl

end ListingCrawl.Json
