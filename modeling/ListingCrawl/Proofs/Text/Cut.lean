import Mathlib.Data.List.Infix
import ListingCrawl.Proofs.Text.Octets
import ListingCrawl.Text.Basic

/-! Where a text is cut at a mark. The first occurrence may begin in what stands before a given one, if the
end of this part and the mark overlap, as a single backtick does with the three of a fence. -/

namespace ListingCrawl.Text

variable {α : Type} [BEq α] [LawfulBEq α] {mark text before after : List α}

/-- A text without the mark is not cut. -/
theorem cutAt?_eq_none (h : ¬mark <:+: text) : cutAt? mark text = none := by
  induction text with
  | nil =>
    have hmark : mark.isEmpty = false := by
      cases mark with
      | nil => exact absurd List.infix_rfl h
      | cons c mark => rfl
    rw [cutAt?, hmark, if_neg Bool.false_ne_true]
  | cons c text ih =>
    have hfirst : ¬mark.isPrefixOf (c :: text) = true := by
      rw [List.isPrefixOf_iff_prefix]
      exact fun hp => h hp.isInfix
    rw [cutAt?, if_neg hfirst, ih fun hi => h (List.infix_cons hi), Option.map_none]

/-- A text that begins with the mark is cut there. -/
theorem cutAt?_prefix (hmark : mark ≠ []) (after : List α) :
    cutAt? mark (mark ++ after) = some ([], after) := by
  obtain ⟨c, rest, rfl⟩ := List.exists_cons_of_ne_nil hmark
  have hfirst : (c :: rest).isPrefixOf (c :: (rest ++ after)) = true :=
    List.isPrefixOf_iff_prefix.mpr (List.prefix_append (c :: rest) after)
  rw [List.cons_append, cutAt?, if_pos hfirst, ← List.cons_append, List.drop_left]

/-- The first occurrence begins where the given one does, or `lost` earlier and ends `tail` earlier. -/
theorem cutAt?_append (h : ¬mark <:+: before) (after : List α) :
    ∃ front lost tail, before = front ++ lost ∧ lost ++ mark = mark ++ tail ∧
      lost.length < mark.length ∧
      cutAt? mark (before ++ mark ++ after) = some (front, tail ++ after) := by
  have hmark : mark ≠ [] := by
    rintro rfl
    exact h List.nil_infix
  induction before with
  | nil =>
    exact ⟨[], [], [], rfl, by simp, List.length_pos_iff.mpr hmark, cutAt?_prefix hmark after⟩
  | cons c before ih =>
    rw [List.cons_append, List.cons_append, cutAt?]
    split
    · next hfirst =>
      obtain ⟨back, hback⟩ := List.isPrefixOf_iff_prefix.mp hfirst
      -- the mark does not fit into `c :: before`, so it ends inside the given one
      have hlong : (c :: before).length < mark.length := by
        by_contra hle
        have hp : mark <+: c :: before := by
          refine List.prefix_of_prefix_length_le (List.prefix_append mark back) ?_ (by omega)
          rw [hback, List.append_assoc, ← List.cons_append]
          exact List.prefix_append (c :: before) (mark ++ after)
        exact h hp.isInfix
      have hover : (c :: before) ++ (mark ++ after) = mark ++ back := by
        rw [hback, List.append_assoc, List.cons_append]
      obtain ⟨tail, htail⟩ : mark <+: (c :: before) ++ mark := by
        refine List.prefix_of_prefix_length_le (List.prefix_append mark back) ?_
          (by rw [List.length_append]; omega)
        rw [← hover, ← List.append_assoc]
        exact List.prefix_append ((c :: before) ++ mark) after
      have hend : back = tail ++ after := by
        rw [← List.append_assoc, ← htail, List.append_assoc] at hover
        exact (List.append_cancel_left hover).symm
      refine ⟨[], c :: before, tail, rfl, htail.symm, hlong, ?_⟩
      rw [← hback, List.drop_left, hend]
    · obtain ⟨front, lost, tail, hbefore, hlost, hlength, hcut⟩ :=
        ih fun hi => h (List.infix_cons hi)
      exact ⟨c :: front, lost, tail, by rw [hbefore, List.cons_append], hlost, hlength,
        by rw [hcut, Option.map_some]⟩

omit [BEq α] [LawfulBEq α] in
/-- What overlaps with the mark is a part of it at both ends. -/
theorem part_of_overlap {lost tail : List α} (h : lost ++ mark = mark ++ tail)
    (hlength : lost.length < mark.length) : lost <+: mark ∧ tail <:+ mark := by
  have hsame : lost.length = tail.length := by
    have := congrArg List.length h
    rw [List.length_append, List.length_append] at this
    omega
  constructor
  · exact List.prefix_of_prefix_length_le (List.prefix_append lost mark)
      (h ▸ List.prefix_append mark tail) (by omega)
  · exact List.suffix_of_suffix_length_le (h ▸ List.suffix_append mark tail)
      (List.suffix_append lost mark) (by omega)

/-- A mark of one character does not overlap with what has none. -/
theorem cutAt?_singleton {c : α} (h : c ∉ before) (after : List α) :
    cutAt? [c] (before ++ [c] ++ after) = some (before, after) := by
  have hc : ¬[c] <:+: before := fun hi => h (hi.subset List.mem_cons_self)
  obtain ⟨front, lost, tail, hbefore, hlost, hlength, hcut⟩ := cutAt?_append hc after
  obtain rfl : lost = [] := by
    rw [List.length_singleton, Nat.lt_one_iff] at hlength
    exact List.length_eq_zero_iff.mp hlength
  obtain rfl : tail = [] := by simpa using hlost
  rw [hcut, hbefore, List.append_nil, List.nil_append]

/-- A text is cut at the first occurrence of the mark. -/
theorem cutAt?_eq_some_iff : cutAt? mark text = some (before, after) ↔
    text = before ++ mark ++ after ∧ ∀ a b, text = a ++ mark ++ b → before.length ≤ a.length := by
  induction text generalizing before with
  | nil => cases mark <;> simp +contextual [cutAt?, eq_comm]
  | cons c text ih =>
    rw [cutAt?]
    split
    · next hfirst =>
      obtain ⟨back, hback⟩ := List.isPrefixOf_iff_prefix.mp hfirst
      rw [← hback, List.drop_left, Option.some_inj, Prod.mk.injEq]
      constructor
      · rintro ⟨rfl, rfl⟩
        exact ⟨rfl, fun a b _ => Nat.zero_le _⟩
      · rintro ⟨hsplit, hleast⟩
        obtain rfl : before = [] := List.eq_nil_of_length_eq_zero (Nat.le_zero.mp (hleast [] back rfl))
        exact ⟨rfl, List.append_cancel_left hsplit⟩
    · next hfirst =>
      -- no occurrence begins with the first character, so each is one in the rest
      have hlater : ∀ a b, c :: text = a ++ mark ++ b → ∃ a', a = c :: a' ∧ text = a' ++ mark ++ b := by
        intro a b hab
        cases a with
        | nil => exact absurd (List.isPrefixOf_iff_prefix.mpr ⟨b, hab.symm⟩) hfirst
        | cons d a =>
          obtain ⟨rfl, htext⟩ := List.cons.inj hab
          exact ⟨a, rfl, htext⟩
      simp only [Option.map_eq_some_iff, Prod.exists, Prod.mk.injEq]
      constructor
      · rintro ⟨front, back, hcut, rfl, rfl⟩
        obtain ⟨htext, hleast⟩ := ih.mp hcut
        refine ⟨congrArg (c :: ·) htext, fun a b hab => ?_⟩
        obtain ⟨a, rfl, ha⟩ := hlater a b hab
        exact Nat.succ_le_succ (hleast a b ha)
      · rintro ⟨htext, hleast⟩
        obtain ⟨front, rfl, hfront⟩ := hlater before after htext
        refine ⟨front, after, ih.mpr ⟨hfront, fun a b hab => ?_⟩, rfl, rfl⟩
        exact Nat.le_of_succ_le_succ (hleast (c :: a) b (congrArg (c :: ·) hab))

/-! ### Octets -/

section Octets

open Octets (ofChars ofChars_append exists_of_ofChars_eq)

/-- The first occurrence of an ASCII text in the octets of a text is its first one in the text. -/
theorem cutAt?_ofChars {mark text before after : List Char} (hne : mark ≠ [])
    (hmark : ∀ c ∈ mark, c.toNat < 0x80) (h : cutAt? mark text = some (before, after)) :
    cutAt? (ofChars mark) (ofChars text) = some (ofChars before, ofChars after) := by
  obtain ⟨rfl, hleast⟩ := cutAt?_eq_some_iff.mp h
  refine cutAt?_eq_some_iff.mpr ⟨by rw [ofChars_append, ofChars_append], fun a b hab => ?_⟩
  obtain ⟨front, back, htext, rfl⟩ := exists_of_ofChars_eq hne hmark hab
  have hbefore : before <+: front ++ mark ++ back := by
    rw [← htext, List.append_assoc]
    exact List.prefix_append _ _
  have hfront : front <+: front ++ mark ++ back := by
    rw [List.append_assoc]
    exact List.prefix_append _ _
  obtain ⟨between, rfl⟩ := List.prefix_of_prefix_length_le hbefore hfront (hleast front back htext)
  rw [ofChars_append, List.length_append]
  exact Nat.le_add_right _ _

end Octets

end ListingCrawl.Text
