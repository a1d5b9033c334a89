import ListingCrawl.Proofs.Text.Trim

/-! Laws of ASCII lower case. It leaves no capital of ASCII and is a normal form, and it leaves blanks and
what is no blank as they are, so that a trimmed text stays trimmed. -/

namespace ListingCrawl.Text

theorem isUpper_iff {c : Char} : c.isUpper = true ↔ 0x41 ≤ c.toNat ∧ c.toNat ≤ 0x5a :=
  decide_eq_true_iff.trans (and_congr UInt32.le_iff_toNat_le UInt32.le_iff_toNat_le)

theorem toLower_of_not_isUpper {c : Char} (h : c.isUpper = false) : c.toLower = c :=
  dif_neg (of_decide_eq_false h)

theorem toNat_toLower {c : Char} (h : c.isUpper = true) : c.toLower.toNat = c.toNat + 0x20 := by
  have hcode := isUpper_iff.mp h
  have hlower : c.toLower.val = c.val + 0x20 := congrArg Char.val (dif_pos (of_decide_eq_true h))
  calc c.toLower.toNat = (c.val + 0x20).toNat := congrArg UInt32.toNat hlower
    _ = (c.toNat + 0x20) % 2 ^ 32 := UInt32.toNat_add c.val 0x20
    _ = c.toNat + 0x20 := Nat.mod_eq_of_lt (by omega)

theorem isUpper_toLower (c : Char) : c.toLower.isUpper = false := by
  cases h : c.isUpper with
  | false => rw [toLower_of_not_isUpper h, h]
  | true =>
    have hcode := isUpper_iff.mp h
    rw [← Bool.not_eq_true, isUpper_iff, toNat_toLower h]
    omega

/-- Neither a capital nor a small letter is a blank. -/
theorem isBlank_toLower (c : Char) : isBlank c.toLower = isBlank c := by
  cases h : c.isUpper with
  | false => rw [toLower_of_not_isUpper h]
  | true =>
    have hletter : ∀ d : Char, 0x41 ≤ d.toNat → d.toNat ≤ 0x7a → isBlank d = false := by
      intro d hlow hhigh
      simp only [isBlank, Bool.or_eq_false_iff, Bool.and_eq_false_iff, decide_eq_false_iff_not,
        beq_eq_false_iff_ne]
      omega
    have hcode := isUpper_iff.mp h
    have hlower := toNat_toLower h
    rw [hletter c hcode.1 (by omega), hletter c.toLower (by omega) (by omega)]

theorem toList_asciiLower (s : String) : (asciiLower s).toList = s.toList.map Char.toLower :=
  String.toList_map

/-- There is no capital letter of ASCII in the text. -/
def NoCapitals (s : String) : Prop :=
  ∀ c ∈ s.toList, c.isUpper = false

instance (s : String) : Decidable (NoCapitals s) :=
  List.decidableBAll (fun c : Char => c.isUpper = false) s.toList

theorem noCapitals_asciiLower (s : String) : NoCapitals (asciiLower s) := by
  rw [NoCapitals, toList_asciiLower, List.forall_mem_map]
  exact fun c _ => isUpper_toLower c

theorem asciiLower_eq_self {s : String} (h : NoCapitals s) : asciiLower s = s := by
  rw [← String.toList_inj, toList_asciiLower]
  calc s.toList.map Char.toLower = s.toList.map id :=
        List.map_congr_left fun c hc => toLower_of_not_isUpper (h c hc)
    _ = s.toList := List.map_id _

theorem IsTrimmed.asciiLower {s : String} (h : IsTrimmed s) : IsTrimmed (asciiLower s) := by
  refine ⟨fun hempty => h.ne_empty ?_, fun c hc => ?_, fun c hc => ?_⟩
  · rw [← String.toList_inj, toList_asciiLower] at hempty
    exact String.toList_inj.mp (List.map_eq_nil_iff.mp hempty)
  · rw [toList_asciiLower, List.head?_map] at hc
    obtain ⟨d, hd, rfl⟩ := Option.map_eq_some_iff.mp hc
    rw [isBlank_toLower, h.ends.1 d hd]
  · rw [toList_asciiLower, List.getLast?_map] at hc
    obtain ⟨d, hd, rfl⟩ := Option.map_eq_some_iff.mp hc
    rw [isBlank_toLower, h.ends.2 d hd]

end ListingCrawl.Text
