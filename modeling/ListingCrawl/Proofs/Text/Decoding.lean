import Mathlib.Data.List.TakeWhile
import ListingCrawl.Proofs.Text.Octets

/-! Decoding UTF-8 gives back what was encoded. The first octet of a character tells how many follow it
and which range the second lies in. The ranges leave out the longer spellings of a character and the
surrogates, and no character has one of those numbers. -/

namespace ListingCrawl.Octets

theorem toNat_ofNat_of_lt {n : Nat} (h : n < 256) : (UInt8.ofNat n).toNat = n := by
  rw [UInt8.toNat_ofNat']
  omega

/-- The octet with the low six bits of a number, as it stands behind the first octet of a character. -/
def continuation (n : Nat) : UInt8 :=
  UInt8.ofNat (0x80 + n % 64)

theorem toNat_continuation (n : Nat) : (continuation n).toNat = 0x80 + n % 64 :=
  toNat_ofNat_of_lt (by omega)

theorem isContinuation_continuation (n : Nat) : isContinuation (continuation n) = true := by
  have hn := toNat_continuation n
  have hlow : 0x80 ≤ (continuation n).toNat := by omega
  have hhigh : (continuation n).toNat ≤ 0xbf := by omega
  simpa [isContinuation, UInt8.le_iff_toNat_le] using And.intro hlow hhigh

/-- A sequence whose octets are in their ranges is decoded, whatever follows it. -/
theorem tail_eq (acc n : Nat) {lo hi : UInt8} (ns : List Nat) (u : Octets)
    (hlo : lo.toNat ≤ 0x80 + n % 64) (hhi : 0x80 + n % 64 ≤ hi.toNat) :
    tail acc lo hi ns.length (continuation n :: (ns.map continuation ++ u)) =
      (some (Char.ofNat (ns.foldl (fun a m => a * 64 + m % 64) (acc * 64 + n % 64))),
        ns.length + 1) := by
  have hn := toNat_continuation n
  have hrange : (decide (lo ≤ continuation n) && decide (continuation n ≤ hi)) = true := by
    simp [UInt8.le_iff_toNat_le, hn, hlo, hhi]
  have htake : ((ns.map continuation ++ u).take ns.length).takeWhile isContinuation =
      ns.map continuation := by
    have hlength : (ns.map continuation).length = ns.length := List.length_map continuation
    rw [← hlength, List.take_left, List.takeWhile_eq_self_iff]
    intro b hb
    obtain ⟨m, -, rfl⟩ := List.mem_map.mp hb
    exact isContinuation_continuation m
  simp only [tail, if_pos hrange, htake, List.length_map, if_true, List.foldl_map, hn,
    toNat_continuation, Nat.add_sub_cancel_left]

/-! ### Characters by their length -/

theorem headScalar_one {n : Nat} (hn : n < 0x80) (u : Octets) :
    headScalar (UInt8.ofNat n) u = (some (Char.ofNat n), 0) := by
  have hb : (UInt8.ofNat n).toNat = n := toNat_ofNat_of_lt (by omega)
  simp only [headScalar, hb, if_pos hn]

theorem headScalar_two {n : Nat} (hlow : 0x80 ≤ n) (hhigh : n < 0x800) (u : Octets) :
    headScalar (UInt8.ofNat (0xc0 + n / 64)) (continuation n :: u) = (some (Char.ofNat n), 1) := by
  have hb : (UInt8.ofNat (0xc0 + n / 64)).toNat = 0xc0 + n / 64 := toNat_ofNat_of_lt (by omega)
  have hlo : (0x80 : UInt8).toNat ≤ 0x80 + n % 64 := by simp
  have hhi : 0x80 + n % 64 ≤ (0xbf : UInt8).toNat := by
    simp
    omega
  have htail := tail_eq (0xc0 + n / 64 - 0xc0) n [] u hlo hhi
  have hsum : (0xc0 + n / 64 - 0xc0) * 64 + n % 64 = n := by omega
  simp only [List.map_nil, List.nil_append, List.foldl_nil, List.length_nil, hsum] at htail
  simp only [headScalar, hb]
  rw [if_neg (by omega), if_neg (by omega), if_pos (by omega), htail]

theorem headScalar_three {n : Nat} (hlow : 0x800 ≤ n) (hhigh : n < 0x10000)
    (hvalid : n < 0xd800 ∨ 0xdfff < n) (u : Octets) :
    headScalar (UInt8.ofNat (0xe0 + n / 4096)) (continuation (n / 64) :: continuation n :: u) =
      (some (Char.ofNat n), 2) := by
  have hb : (UInt8.ofNat (0xe0 + n / 4096)).toNat = 0xe0 + n / 4096 := toNat_ofNat_of_lt (by omega)
  have hlo : (if 0xe0 + n / 4096 = 0xe0 then 0xa0 else 0x80 : UInt8).toNat ≤ 0x80 + n / 64 % 64 := by
    split <;> simp
    omega
  have hhi : 0x80 + n / 64 % 64 ≤ (if 0xe0 + n / 4096 = 0xed then 0x9f else 0xbf : UInt8).toNat := by
    split <;> simp <;> omega
  have htail := tail_eq (0xe0 + n / 4096 - 0xe0) (n / 64) [n] u hlo hhi
  have hsum : ((0xe0 + n / 4096 - 0xe0) * 64 + n / 64 % 64) * 64 + n % 64 = n := by omega
  simp only [List.map_cons, List.map_nil, List.cons_append, List.nil_append, List.foldl_cons,
    List.foldl_nil, List.length_cons, List.length_nil, hsum] at htail
  simp only [headScalar, hb]
  rw [if_neg (by omega), if_neg (by omega), if_neg (by omega), if_pos (by omega), htail]

theorem headScalar_four {n : Nat} (hlow : 0x10000 ≤ n) (hhigh : n < 0x110000) (u : Octets) :
    headScalar (UInt8.ofNat (0xf0 + n / 262144))
      (continuation (n / 4096) :: continuation (n / 64) :: continuation n :: u) =
      (some (Char.ofNat n), 3) := by
  have hb : (UInt8.ofNat (0xf0 + n / 262144)).toNat = 0xf0 + n / 262144 :=
    toNat_ofNat_of_lt (by omega)
  have hlo : (if 0xf0 + n / 262144 = 0xf0 then 0x90 else 0x80 : UInt8).toNat ≤
      0x80 + n / 4096 % 64 := by
    split <;> simp
    omega
  have hhi : 0x80 + n / 4096 % 64 ≤
      (if 0xf0 + n / 262144 = 0xf4 then 0x8f else 0xbf : UInt8).toNat := by
    split <;> simp <;> omega
  have htail := tail_eq (0xf0 + n / 262144 - 0xf0) (n / 4096) [n / 64, n] u hlo hhi
  have hsum : (((0xf0 + n / 262144 - 0xf0) * 64 + n / 4096 % 64) * 64 + n / 64 % 64) * 64 +
      n % 64 = n := by omega
  simp only [List.map_cons, List.map_nil, List.cons_append, List.nil_append, List.foldl_cons,
    List.foldl_nil, List.length_cons, List.length_nil, hsum] at htail
  simp only [headScalar, hb]
  rw [if_neg (by omega), if_neg (by omega), if_neg (by omega), if_neg (by omega), if_pos (by omega),
    htail]

/-- The octets of a character are read as this character, whatever follows them. -/
theorem headScalar_ofChar (c : Char) : ∃ b r, ofChar c = b :: r ∧
    ∀ u, headScalar b (r ++ u) = (some c, r.length) := by
  have hvalid := toNat_of_char c
  have hc : Char.ofNat c.toNat = c := Char.ofNat_toNat c
  generalize hn : c.toNat = n at hvalid hc
  subst hc
  by_cases h₁ : n < 0x80
  · exact ⟨_, [], by simp [ofChar, hn, h₁], headScalar_one h₁⟩
  by_cases h₂ : n < 0x800
  · exact ⟨_, [continuation n], by simp [ofChar, hn, h₁, h₂, continuation],
      headScalar_two (by omega) h₂⟩
  by_cases h₃ : n < 0x10000
  · exact ⟨_, [continuation (n / 64), continuation n],
      by simp [ofChar, hn, h₁, h₂, h₃, continuation],
      headScalar_three (by omega) h₃ (by omega)⟩
  · exact ⟨_, [continuation (n / 4096), continuation (n / 64), continuation n],
      by simp [ofChar, hn, h₁, h₂, h₃, continuation], headScalar_four (by omega) (by omega)⟩

/-! ### Texts -/

theorem scanFrom_append (s u : Octets) : scanFrom s.length (s ++ u) = scanFrom 0 u := by
  induction s with
  | nil => rfl
  | cons b s ih => exact ih

theorem scan_ofChars (cs : List Char) : scan (ofChars cs) = cs.map some := by
  induction cs with
  | nil => rfl
  | cons c cs ih =>
    obtain ⟨b, r, hc, hread⟩ := headScalar_ofChar c
    rw [ofChars_cons, hc, List.cons_append, scan, scanFrom, hread, scanFrom_append, List.map_cons]
    exact congrArg _ ih

/-- The octets of a text are the octets of this text only. -/
theorem toText?_ofChars (cs : List Char) : toText? (ofChars cs) = some (String.ofList cs) := by
  have hall : (cs.map some).all Option.isSome = true := by simp
  have hback : (cs.map some).filterMap id = cs := by simp
  simp only [toText?, scan_ofChars, if_pos hall, hback]

theorem toTextLossy_ofText (s : String) : toTextLossy (ofText s) = s := by
  rw [toTextLossy, ofText, scan_ofChars, List.map_map]
  change String.ofList (s.toList.map id) = s
  rw [List.map_id, String.ofList_toList]

/-- An ASCII octet at the front is the first character of the text. -/
theorem head?_of_toText? {b : UInt8} {r : Octets} {text : String} (hb : b.toNat < 0x80)
    (h : toText? (b :: r) = some text) : text.toList.head? = some (Char.ofNat b.toNat) := by
  have hscan : scan (b :: r) = some (Char.ofNat b.toNat) :: scan r := by
    simp only [scan, scanFrom, headScalar, if_pos hb]
  simp only [toText?, hscan] at h
  split at h
  · cases h
    rw [String.toList_ofList]
    rfl
  · cases h

end ListingCrawl.Octets
