import Mathlib.Algebra.Group.Nat.Defs
import ListingCrawl.Proofs.Text.Trim
import ListingCrawl.Text.Upper

/-! Laws of upper case. No code point that the table of case mappings gives is one that it changes, and
none is a blank: both are facts about finite sets of code points, which the kernel decides as numbers with
one bit for each member. So upper case is a normal form, it keeps the ends of a text free of blanks, and it
empties no text. -/

namespace ListingCrawl.Text

/-! ### Sets of code points as numbers -/

/-- A set of numbers, one bit for each. -/
def bits (ns : List Nat) : Nat :=
  ns.foldr (fun n s => 2 ^ n ||| s) 0

theorem testBit_bits {ns : List Nat} {n : Nat} (h : n ∈ ns) : (bits ns).testBit n = true := by
  induction ns with
  | nil => cases h
  | cons m ns ih =>
    rw [bits, List.foldr_cons, Nat.testBit_or, Bool.or_eq_true]
    rcases List.mem_cons.mp h with rfl | h
    · exact .inl (by simp [Nat.testBit_two_pow_self])
    · exact .inr (ih h)

theorem not_mem_of_bits {ns ms : List Nat} (h : bits ns &&& bits ms = 0) {n : Nat} (hn : n ∈ ns) :
    n ∉ ms := by
  intro hm
  have hand : (bits ns &&& bits ms).testBit n = true := by
    rw [Nat.testBit_and, testBit_bits hn, testBit_bits hm, Bool.and_self]
  simp [h] at hand

/-! ### The table -/

namespace CaseRun

/-- How far the characters of a run are from its first. -/
def offsets (r : CaseRun) : List Nat :=
  (List.range (r.last - r.first + 1)).filter (· % r.stride == 0)

theorem offset_of_contains {r : CaseRun} {n : Nat} (h : r.contains n = true) :
    n - r.first ∈ r.offsets ∧ r.first + (n - r.first) = n := by
  simp only [contains, Bool.and_eq_true, decide_eq_true_eq] at h
  obtain ⟨⟨hfirst, hlast⟩, hstride⟩ := h
  refine ⟨List.mem_filter.mpr ⟨List.mem_range.mpr (by omega), hstride⟩, by omega⟩

end CaseRun

/-- The code points that upper case changes. -/
def changedCodes : List Nat :=
  (List.range 26).map (0x61 + ·) ++ caseExpansions.map (·.1) ++
    caseRuns.flatMap fun r => r.offsets.map (r.first + ·)

/-- The code points that it puts in their place. -/
def givenCodes : List Nat :=
  (List.range 26).map (0x41 + ·) ++ caseExpansions.flatMap (·.2) ++
    caseRuns.flatMap fun r => r.offsets.map (r.upper + ·)

def blankCodes : List Nat :=
  List.range' 0x09 5 ++ [0x20, 0x85, 0xa0, 0x1680] ++ List.range' 0x2000 11 ++
    [0x2028, 0x2029, 0x202f, 0x205f, 0x3000]

theorem givenCodes_not_changed : bits givenCodes &&& bits changedCodes = 0 := by
  decide +kernel

theorem givenCodes_not_blank : bits givenCodes &&& bits blankCodes = 0 := by
  decide +kernel

theorem givenCodes_valid : ∀ n ∈ givenCodes, n.isValidChar := by
  decide +kernel

theorem caseExpansions_ne_nil : ∀ e ∈ caseExpansions, e.2 ≠ [] := by
  decide +kernel

theorem mem_blankCodes {c : Char} (h : isBlank c = true) : c.toNat ∈ blankCodes := by
  simp only [isBlank, Bool.or_eq_true, Bool.and_eq_true, decide_eq_true_eq, beq_iff_eq] at h
  simp only [blankCodes, List.mem_append, List.mem_range'_1, List.mem_cons, List.not_mem_nil, or_false]
  omega

theorem upperCodes_of_not_changed {n : Nat} (h : n ∉ changedCodes) : upperCodes n = [n] := by
  simp only [changedCodes, List.mem_append, not_or] at h
  obtain ⟨⟨hascii, hexpansion⟩, hrun⟩ := h
  have hlower : ¬ (0x61 ≤ n ∧ n ≤ 0x7a) := by
    intro hn
    exact hascii (List.mem_map.mpr ⟨n - 0x61, List.mem_range.mpr (by omega), by omega⟩)
  have hlookup : caseExpansions.lookup n = none := by
    rw [List.lookup_eq_none_iff]
    intro e he
    rw [bne_iff_ne]
    rintro rfl
    exact hexpansion (List.mem_map_of_mem he)
  have hfind : caseRuns.find? (·.contains n) = none := by
    rw [List.find?_eq_none]
    intro r hr hcontains
    obtain ⟨hoffset, hsum⟩ := CaseRun.offset_of_contains hcontains
    exact hrun (List.mem_flatMap.mpr ⟨r, hr, List.mem_map.mpr ⟨_, hoffset, hsum⟩⟩)
  simp [upperCodes, hlower, hlookup, hfind]

/-- A code point stays, or code points of the table take its place. -/
theorem upperCodes_cases (n : Nat) :
    upperCodes n = [n] ∨ upperCodes n ≠ [] ∧ ∀ m ∈ upperCodes n, m ∈ givenCodes := by
  by_cases hascii : n < 0x80
  · by_cases hlower : 0x61 ≤ n ∧ n ≤ 0x7a
    · right
      have hmem : n - 32 ∈ (List.range 26).map (0x41 + ·) :=
        List.mem_map.mpr ⟨n - 0x61, List.mem_range.mpr (by omega), by omega⟩
      rw [upperCodes, if_pos hascii, if_pos hlower]
      refine ⟨List.cons_ne_nil _ _, fun m hm => ?_⟩
      rw [List.mem_singleton.mp hm, givenCodes, List.append_assoc]
      exact List.mem_append_left _ hmem
    · left
      simp [upperCodes, hascii, hlower]
  · rw [upperCodes, if_neg hascii]
    split
    · next codes hcodes =>
      right
      have he : (n, codes) ∈ caseExpansions := by
        obtain ⟨before, after, htable, -⟩ := List.lookup_eq_some_iff.mp hcodes
        simp [htable]
      refine ⟨caseExpansions_ne_nil _ he, fun m hm => ?_⟩
      simp only [givenCodes, List.mem_append, List.mem_flatMap]
      exact .inl (.inr ⟨_, he, hm⟩)
    · split
      · next r hr =>
        right
        obtain ⟨hoffset, -⟩ := CaseRun.offset_of_contains (by simpa using List.find?_some hr)
        refine ⟨List.cons_ne_nil _ _, fun m hm => ?_⟩
        rw [List.mem_singleton.mp hm]
        simp only [givenCodes, List.mem_append, List.mem_flatMap]
        exact .inr ⟨r, List.mem_of_find?_eq_some hr, List.mem_map_of_mem hoffset⟩
      · exact .inl rfl

/-! ### Characters -/

theorem upperChar_of_given {n : Nat} (h : n ∈ givenCodes) :
    upperChar (Char.ofNat n) = [Char.ofNat n] ∧ isBlank (Char.ofNat n) = false := by
  have hn : (Char.ofNat n).toNat = n := by
    rw [Char.ofNat, dif_pos (givenCodes_valid n h)]
    rfl
  constructor
  · have hcodes := upperCodes_of_not_changed (not_mem_of_bits givenCodes_not_changed h)
    rw [upperChar, hn, hcodes, List.map_singleton]
  · rw [← Bool.not_eq_true]
    intro hblank
    exact not_mem_of_bits givenCodes_not_blank h (hn ▸ mem_blankCodes hblank)

theorem upperChar_cases (c : Char) :
    upperChar c = [c] ∨
      upperChar c ≠ [] ∧ ∀ d ∈ upperChar c, upperChar d = [d] ∧ isBlank d = false := by
  rcases upperCodes_cases c.toNat with h | ⟨hne, hgiven⟩
  · left
    rw [upperChar, h, List.map_singleton, Char.ofNat_toNat]
  · right
    refine ⟨by simpa [upperChar] using hne, fun d hd => ?_⟩
    obtain ⟨n, hn, rfl⟩ := List.mem_map.mp hd
    exact upperChar_of_given (hgiven n hn)

theorem upperChar_ne_nil (c : Char) : upperChar c ≠ [] := by
  rcases upperChar_cases c with h | h
  · simp [h]
  · exact h.1

theorem upperChar_of_mem {c d : Char} (hd : d ∈ upperChar c) : upperChar d = [d] := by
  rcases upperChar_cases c with h | h
  · rw [h, List.mem_singleton] at hd
    rw [hd, h]
  · exact (h.2 d hd).1

theorem isBlank_of_mem_upperChar {c d : Char} (hc : isBlank c = false) (hd : d ∈ upperChar c) :
    isBlank d = false := by
  rcases upperChar_cases c with h | h
  · rw [h, List.mem_singleton] at hd
    rw [hd, hc]
  · exact (h.2 d hd).2

/-! ### Texts -/

theorem toList_upper (s : String) : (upper s).toList = s.toList.flatMap upperChar :=
  String.toList_ofList

theorem upper_upper (s : String) : upper (upper s) = upper s := by
  rw [upper, toList_upper, List.flatMap_assoc, upper]
  congr 1
  refine List.flatMap_congr fun c _ => ?_
  calc (upperChar c).flatMap upperChar
      = (upperChar c).flatMap fun d => [d] := List.flatMap_congr fun d hd => upperChar_of_mem hd
    _ = upperChar c := List.flatMap_singleton' _

theorem noBlankEnds_upper {s : String} (h : NoBlankEnds s.toList) : NoBlankEnds (upper s).toList := by
  rw [toList_upper]
  generalize s.toList = cs at h
  constructor
  · intro d hd
    cases cs with
    | nil => simp at hd
    | cons c cs =>
      refine isBlank_of_mem_upperChar (h.1 c rfl) (List.mem_of_mem_head? ?_)
      simpa [List.head?_append, upperChar_ne_nil] using hd
  · intro d hd
    cases cs using List.reverseRecOn with
    | nil => simp at hd
    | append_singleton cs c =>
      refine isBlank_of_mem_upperChar (h.2 c (by simp)) (List.mem_of_mem_getLast? ?_)
      simpa [List.getLast?_append, upperChar_ne_nil] using hd

theorem trim_upper_trim (s : String) : trim (upper (trim s)) = upper (trim s) :=
  trim_eq_self (noBlankEnds_upper (toList_trim s ▸ noBlankEnds_trimChars s.toList))

end ListingCrawl.Text
