import Mathlib.Data.List.DropRight
import ListingCrawl.Text.Basic

/-! Trimming as a normal form. A trimmed text has no blank at either end, and such a text is left alone
by trimming, so that trimming twice is trimming once and a text is blank if and only if its trimmed form
is. -/

namespace ListingCrawl.Text

/-- Neither the first nor the last character is a blank. -/
def NoBlankEnds (cs : List Char) : Prop :=
  (∀ c ∈ cs.head?, isBlank c = false) ∧ ∀ c ∈ cs.getLast?, isBlank c = false

theorem trimChars_eq (cs : List Char) :
    trimChars cs = (cs.dropWhile isBlank).rdropWhile isBlank := rfl

/-- What is left of a text is a part of it. -/
theorem trimChars_part (cs : List Char) : trimChars cs <:+: cs :=
  (List.rdropWhile_prefix isBlank _).isInfix.trans (List.dropWhile_suffix isBlank).isInfix

theorem noBlankEnds_trimChars (cs : List Char) : NoBlankEnds (trimChars cs) := by
  constructor
  · intro c hc
    -- cutting at the end keeps the head of what is left
    obtain ⟨tail, htail⟩ : trimChars cs <+: cs.dropWhile isBlank :=
      List.rdropWhile_prefix isBlank (cs.dropWhile isBlank)
    have hhead : (cs.dropWhile isBlank).head? = some c := by
      rw [← htail, List.head?_append, Option.mem_def.mp hc, Option.some_or]
    have := List.head?_dropWhile_not isBlank cs
    rw [hhead] at this
    simpa using this
  · intro c hc
    have hne : trimChars cs ≠ [] := by
      intro h
      simp [h] at hc
    have hlast := List.rdropWhile_last_not isBlank (cs.dropWhile isBlank) hne
    rw [List.getLast?_eq_some_getLast hne, Option.mem_some_iff] at hc
    rw [← hc, ← Bool.not_eq_true]
    exact hlast

theorem trimChars_eq_self {cs : List Char} (h : NoBlankEnds cs) : trimChars cs = cs := by
  have hfirst : cs.dropWhile isBlank = cs := by
    cases cs with
    | nil => rfl
    | cons c cs => rw [List.dropWhile_cons_of_neg (by simp [h.1 c rfl])]
  rw [trimChars_eq, hfirst, List.rdropWhile_eq_self_iff]
  intro hne
  simp [h.2 _ (List.getLast?_eq_some_getLast hne)]

/-- A text that does not begin with a blank is cut at its end only. -/
theorem trimChars_cons {c : Char} (hc : isBlank c = false) (cs : List Char) :
    ∃ kept, trimChars (c :: cs) = c :: kept ∧ kept <+: cs := by
  have hp : trimChars (c :: cs) <+: c :: cs := by
    rw [trimChars_eq, List.dropWhile_cons_of_neg (by simp [hc])]
    exact List.rdropWhile_prefix isBlank (c :: cs)
  obtain hnil | ⟨kept, hk, hkept⟩ := List.prefix_cons_iff.mp hp
  · rw [trimChars_eq, List.dropWhile_cons_of_neg (by simp [hc]), List.rdropWhile_eq_nil_iff] at hnil
    rw [hnil c List.mem_cons_self] at hc
    cases hc
  · exact ⟨kept, hk, hkept⟩

/-- What is dropped at the front ends before what begins with a character that is kept. -/
theorem dropWhile_append_of_head? {p : Char → Bool} {m : List Char} (hne : m ≠ [])
    (hm : ∀ c ∈ m.head?, p c = false) (a b : List Char) :
    (a ++ (m ++ b)).dropWhile p = a.dropWhile p ++ (m ++ b) := by
  obtain ⟨c, r, rfl⟩ := List.exists_cons_of_ne_nil hne
  rw [List.dropWhile_append, List.cons_append, List.dropWhile_cons_of_neg (by simp [hm c rfl])]
  split
  · next hnil => rw [List.isEmpty_iff.mp hnil, List.nil_append]
  · rfl

/-- Around a part that has no blank at its ends only what stands outside of it is trimmed. -/
theorem trimChars_append {m : List Char} (hne : m ≠ []) (hm : NoBlankEnds m) (a b : List Char) :
    trimChars (a ++ m ++ b) = a.dropWhile isBlank ++ m ++ b.rdropWhile isBlank := by
  have hfirst : (a ++ m ++ b).dropWhile isBlank = a.dropWhile isBlank ++ (m ++ b) := by
    rw [List.append_assoc]
    exact dropWhile_append_of_head? hne hm.1 a b
  have hlast : (b.reverse ++ (m.reverse ++ (a.dropWhile isBlank).reverse)).dropWhile isBlank =
      b.reverse.dropWhile isBlank ++ (m.reverse ++ (a.dropWhile isBlank).reverse) := by
    refine dropWhile_append_of_head? (by simpa using hne) ?_ _ _
    rw [List.head?_reverse]
    exact hm.2
  rw [trimChars, hfirst, List.reverse_append, List.reverse_append, List.append_assoc, hlast]
  simp [List.rdropWhile]

theorem toList_trim (s : String) : (trim s).toList = trimChars s.toList :=
  String.toList_ofList

theorem trim_eq_self {s : String} (h : NoBlankEnds s.toList) : trim s = s := by
  rw [trim, trimChars_eq_self h, String.ofList_toList]

@[simp] theorem trim_trim (s : String) : trim (trim s) = trim s :=
  trim_eq_self (toList_trim s ▸ noBlankEnds_trimChars s.toList)

@[simp] theorem isBlankText_trim (s : String) : isBlankText (trim s) = isBlankText s := by
  rw [isBlankText, trim_trim, isBlankText]

theorem trimChars_eq_nil_iff {cs : List Char} :
    trimChars cs = [] ↔ ∀ c ∈ cs, isBlank c = true := by
  rw [trimChars_eq, List.rdropWhile_eq_nil_iff]
  constructor
  · intro hall
    have hnil : cs.dropWhile isBlank = [] := by
      by_contra hne
      have := List.head_dropWhile_not isBlank hne
      rw [hall _ (List.head_mem hne)] at this
      cases this
    exact List.dropWhile_eq_nil_iff.mp hnil
  · intro hall c hc
    exact hall c ((List.dropWhile_suffix isBlank).subset hc)

theorem isBlankText_iff {s : String} :
    isBlankText s = true ↔ ∀ c ∈ s.toList, isBlank c = true := by
  rw [← trimChars_eq_nil_iff, isBlankText, beq_iff_eq, trim, String.ofList_eq_empty_iff]

/-- One character that is no blank is enough. -/
theorem isBlankText_eq_false {s : String} {c : Char} (hc : c ∈ s.toList) (hb : isBlank c = false) :
    isBlankText s = false := by
  rw [← Bool.not_eq_true, isBlankText_iff]
  intro h
  simp [h c hc] at hb

theorem isBlankText_append (s t : String) :
    isBlankText (s ++ t) = (isBlankText s && isBlankText t) := by
  rw [Bool.eq_iff_iff, Bool.and_eq_true, isBlankText_iff, isBlankText_iff, isBlankText_iff,
    String.toList_append]
  exact List.forall_mem_append

theorem isBlankText_append_left {s : String} (h : isBlankText s = false) (t : String) :
    isBlankText (s ++ t) = false := by
  rw [isBlankText_append, h, Bool.false_and]

theorem isBlankText_append_right {t : String} (h : isBlankText t = false) (s : String) :
    isBlankText (s ++ t) = false := by
  rw [isBlankText_append, h, Bool.and_false]

theorem isBlank_of_isDigit {c : Char} (h : c.isDigit = true) : isBlank c = false := by
  simp only [Char.isDigit, Bool.and_eq_true, decide_eq_true_eq, ge_iff_le,
    UInt32.le_iff_toNat_le] at h
  have hlow : 0x30 ≤ c.toNat := h.1
  have hhigh : c.toNat ≤ 0x39 := h.2
  have hne : ∀ n, n < 0x30 ∨ 0x39 < n → (c.toNat == n) = false := by
    intro n hn
    rw [beq_eq_false_iff_ne]
    omega
  have hrange : ∀ m n, 0x39 < m ∨ n < 0x30 → (decide (m ≤ c.toNat) && decide (c.toNat ≤ n)) = false := by
    intro m n hmn
    rw [Bool.and_eq_false_iff, decide_eq_false_iff_not, decide_eq_false_iff_not]
    omega
  simp [isBlank, hne, hrange]

theorem trimmed?_eq_some_iff {s t : String} :
    trimmed? s = some t ↔ isBlankText s = false ∧ trim s = t := by
  cases h : isBlankText s <;> simp [trimmed?, h]

/-! ### Trimmed texts -/

/-- There is something in the text, and neither end of it is a blank. -/
structure IsTrimmed (s : String) : Prop where
  ne_empty : s ≠ ""
  ends : NoBlankEnds s.toList

theorem isTrimmed_of_trimmed? {s t : String} (h : trimmed? s = some t) : IsTrimmed t := by
  obtain ⟨hblank, rfl⟩ := trimmed?_eq_some_iff.mp h
  refine ⟨fun hempty => ?_, toList_trim s ▸ noBlankEnds_trimChars s.toList⟩
  rw [← isBlankText_trim, hempty] at hblank
  cases hblank

theorem IsTrimmed.trimmed?_eq {s : String} (h : IsTrimmed s) : trimmed? s = some s := by
  have htrim := trim_eq_self h.ends
  refine trimmed?_eq_some_iff.mpr ⟨?_, htrim⟩
  rw [isBlankText, htrim]
  exact beq_eq_false_iff_ne.mpr h.ne_empty

/-- What stands between two trimmed texts is not at an end. -/
theorem IsTrimmed.append {s t : String} (hs : IsTrimmed s) (between : String) (ht : IsTrimmed t) :
    IsTrimmed (s ++ between ++ t) := by
  have hs' : s.toList ≠ [] := by simpa using hs.ne_empty
  have ht' : t.toList ≠ [] := by simpa using ht.ne_empty
  refine ⟨by simp [hs.ne_empty], fun c hc => hs.ends.1 c ?_, fun c hc => ht.ends.2 c ?_⟩
  · rwa [String.toList_append, String.toList_append, List.append_assoc,
      List.head?_append_of_ne_nil _ hs'] at hc
  · rwa [String.toList_append, List.getLast?_append_of_ne_nil _ ht'] at hc

end ListingCrawl.Text
