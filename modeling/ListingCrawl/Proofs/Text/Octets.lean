import ListingCrawl.Text.Octets

/-! UTF-8 keeps ASCII apart: an octet below 0x80 is a character of its own, and every octet of any other
character is larger. So a mark that is ASCII stands at the same places in a text and in its octets. -/

namespace ListingCrawl.Octets

/-- A character lies below the surrogates or above them. -/
theorem toNat_of_char (c : Char) : c.toNat < 0xd800 ∨ 0xdfff < c.toNat ∧ c.toNat < 0x110000 :=
  c.valid

theorem toNat_lt_of_char (c : Char) : c.toNat < 0x110000 := by
  have := toNat_of_char c
  omega

theorem le_of_mem_ofChar {b : UInt8} {c : Char} (hc : 0x80 ≤ c.toNat) (h : b ∈ ofChar c) :
    0x80 ≤ b.toNat := by
  have hlt := toNat_lt_of_char c
  have byte : ∀ n, 0x80 ≤ n % 256 → b = UInt8.ofNat n → 0x80 ≤ b.toNat := by
    intro n hn hb
    rw [hb]
    exact hn
  unfold ofChar at h
  dsimp only at h
  rw [if_neg (by omega)] at h
  split at h
  · simp only [List.mem_cons, List.not_mem_nil, or_false] at h
    obtain h | h := h
    · exact byte _ (by omega) h
    · exact byte _ (by omega) h
  · split at h
    · simp only [List.mem_cons, List.not_mem_nil, or_false] at h
      obtain h | h | h := h
      · exact byte _ (by omega) h
      · exact byte _ (by omega) h
      · exact byte _ (by omega) h
    · simp only [List.mem_cons, List.not_mem_nil, or_false] at h
      obtain h | h | h | h := h
      · exact byte _ (by omega) h
      · exact byte _ (by omega) h
      · exact byte _ (by omega) h
      · exact byte _ (by omega) h

theorem ofChar_of_lt {c : Char} (hc : c.toNat < 0x80) : ofChar c = [UInt8.ofNat c.toNat] := by
  unfold ofChar
  exact if_pos hc

theorem ofChars_cons (c : Char) (cs : List Char) : ofChars (c :: cs) = ofChar c ++ ofChars cs :=
  List.flatMap_cons

theorem ofChars_singleton (c : Char) : ofChars [c] = ofChar c := by
  rw [ofChars_cons, ofChars, List.flatMap_nil, List.append_nil]

theorem ofChars_cons_ascii {c : Char} (hc : c.toNat < 0x80) (cs : List Char) :
    ofChars (c :: cs) = UInt8.ofNat c.toNat :: ofChars cs := by
  rw [ofChars_cons, ofChar_of_lt hc, List.singleton_append]

theorem ofChars_openBrace (cs : List Char) : ofChars ('{' :: cs) = openBrace :: ofChars cs :=
  ofChars_cons_ascii (by decide) cs

theorem ofChars_closeBrace (cs : List Char) : ofChars ('}' :: cs) = closeBrace :: ofChars cs :=
  ofChars_cons_ascii (by decide) cs

theorem ofChar_ne_nil (c : Char) : ofChar c ≠ [] := by
  unfold ofChar
  dsimp only
  repeat' split
  all_goals exact List.cons_ne_nil _ _

@[simp] theorem ofChars_eq_nil_iff {cs : List Char} : ofChars cs = [] ↔ cs = [] := by
  cases cs with
  | nil => simp [ofChars]
  | cons c cs => simp [ofChars_cons, ofChar_ne_nil]

/-- An ASCII octet stands for the character of its number. -/
theorem toNat_of_mem_ofChar {b : UInt8} {c : Char} (hb : b.toNat < 0x80) (h : b ∈ ofChar c) :
    c.toNat = b.toNat := by
  by_cases hc : c.toNat < 0x80
  · rw [ofChar_of_lt hc, List.mem_singleton] at h
    rw [h, UInt8.toNat_ofNat']
    omega
  · have := le_of_mem_ofChar (by omega) h
    omega

/-- What begins in `s ++ t` with an octet that does not occur in `s` begins in `t`. -/
theorem suffix_of_not_mem {b : UInt8} {s t r : Octets} (hb : b ∉ s) (h : b :: r <:+ s ++ t) :
    b :: r <:+ t := by
  induction s with
  | nil => exact h
  | cons a s ih =>
    rw [List.mem_cons, not_or] at hb
    rw [List.cons_append, List.suffix_cons_iff] at h
    obtain h | h := h
    · exact absurd (List.cons.inj h).1 hb.1
    · exact ih hb.2 h

/-- The places of an ASCII character in a text are those of its octet. -/
theorem suffix_ofChars_iff {m : Char} (hm : m.toNat < 0x80) {r : Octets} {text : List Char} :
    UInt8.ofNat m.toNat :: r <:+ ofChars text ↔
      ∃ after, m :: after <:+ text ∧ UInt8.ofNat m.toNat :: r = ofChars (m :: after) := by
  have hlt : (UInt8.ofNat m.toNat).toNat = m.toNat := by
    rw [UInt8.toNat_ofNat']
    omega
  constructor
  · intro h
    induction text with
    | nil => simp [ofChars] at h
    | cons c text ih =>
      rw [ofChars_cons] at h
      by_cases hc : c = m
      · subst hc
        rw [ofChar_of_lt hm, List.singleton_append, List.suffix_cons_iff] at h
        obtain h | h := h
        · refine ⟨text, List.suffix_rfl, ?_⟩
          rw [h, ofChars_cons, ofChar_of_lt hm]
          rfl
        · obtain ⟨after, ha, hr⟩ := ih h
          exact ⟨after, ha.trans (List.suffix_cons _ _), hr⟩
      · have hn : UInt8.ofNat m.toNat ∉ ofChar c := by
          intro hmem
          have := toNat_of_mem_ofChar (by omega) hmem
          exact hc (Char.toNat_inj.mp (by omega))
        obtain ⟨after, ha, hr⟩ := ih (suffix_of_not_mem hn h)
        exact ⟨after, ha.trans (List.suffix_cons _ _), hr⟩
  · rintro ⟨after, ⟨before, rfl⟩, hr⟩
    rw [hr, ofChars_append]
    exact List.suffix_append _ _

/-- The braces of a text are those of its octets. -/
theorem suffix_openBrace_iff {r : Octets} {text : List Char} : openBrace :: r <:+ ofChars text ↔
    ∃ after, '{' :: after <:+ text ∧ openBrace :: r = ofChars ('{' :: after) := by
  have hb : openBrace = UInt8.ofNat '{'.toNat := by decide
  rw [hb]
  exact suffix_ofChars_iff (by decide)

theorem suffix_closeBrace_iff {r : Octets} {text : List Char} : closeBrace :: r <:+ ofChars text ↔
    ∃ after, '}' :: after <:+ text ∧ closeBrace :: r = ofChars ('}' :: after) := by
  have hb : closeBrace = UInt8.ofNat '}'.toNat := by decide
  rw [hb]
  exact suffix_ofChars_iff (by decide)

/-- Octets that begin with an ASCII text are those of a text that begins with it. -/
theorem eq_append_of_ofChars {mark text : List Char} (hmark : ∀ c ∈ mark, c.toNat < 0x80) {r : Octets}
    (h : ofChars text = ofChars mark ++ r) : ∃ rest, text = mark ++ rest ∧ r = ofChars rest := by
  induction mark generalizing text with
  | nil => exact ⟨text, rfl, h.symm⟩
  | cons c mark ih =>
    rw [List.forall_mem_cons] at hmark
    rw [ofChars_cons, ofChar_of_lt hmark.1, List.append_assoc, List.singleton_append] at h
    have hplace : UInt8.ofNat c.toNat :: (ofChars mark ++ r) <:+ ofChars text :=
      h.symm ▸ List.suffix_rfl
    obtain ⟨after, ⟨front, rfl⟩, hafter⟩ := (suffix_ofChars_iff hmark.1).mp hplace
    rw [hafter, ofChars_append, List.append_left_eq_self, ofChars_eq_nil_iff] at h
    rw [ofChars_cons, ofChar_of_lt hmark.1, List.singleton_append] at hafter
    obtain ⟨rest, rfl, hrest⟩ := ih hmark.2 (List.cons.inj hafter).2.symm
    exact ⟨rest, by rw [h, List.nil_append, List.cons_append], hrest⟩

/-- An ASCII text occurs in the octets of a text where it occurs in the text. -/
theorem exists_of_ofChars_eq {mark text : List Char} (hne : mark ≠ []) (hmark : ∀ c ∈ mark, c.toNat < 0x80)
    {a b : Octets} (h : ofChars text = a ++ ofChars mark ++ b) :
    ∃ before after, text = before ++ mark ++ after ∧ a = ofChars before := by
  obtain ⟨c, mark, rfl⟩ := List.exists_cons_of_ne_nil hne
  have hc := (List.forall_mem_cons.mp hmark).1
  have hplace : UInt8.ofNat c.toNat :: (ofChars mark ++ b) <:+ ofChars text := by
    rw [h, ofChars_cons, ofChar_of_lt hc, List.append_assoc]
    exact List.suffix_append _ _
  obtain ⟨back, ⟨before, rfl⟩, hback⟩ := (suffix_ofChars_iff hc).mp hplace
  have hbegins : ofChars (c :: back) = ofChars (c :: mark) ++ b := by
    rw [← hback, ofChars_cons, ofChar_of_lt hc]
    rfl
  obtain ⟨after, hafter, -⟩ := eq_append_of_ofChars hmark hbegins
  refine ⟨before, after, by rw [hafter, List.append_assoc], ?_⟩
  rw [ofChars_append, hbegins, List.append_assoc] at h
  exact (List.append_cancel_right h).symm

end ListingCrawl.Octets
