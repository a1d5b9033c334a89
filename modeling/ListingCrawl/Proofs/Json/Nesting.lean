import ListingCrawl.Proofs.Json.ClosingBrace

/-! The count of open braces. The scan for the end of an object goes up by one at an opening brace and down by one
at a closing brace, both outside of string literals only. Seen as a number with a sign, the count is positive from
the first brace on for as long as the scan goes on, and the scan stops where it is back at zero. So it never falls
below zero, on any octets. -/

namespace ListingCrawl.Json

open Octets

variable {depth n k : Nat} {q : Quoting} {s : Octets}

/-! ### Counting -/

/-- What the octet `b` adds to the count. -/
def Quoting.brace (q : Quoting) (b : UInt8) : Int :=
  if q = .outside ∧ b = openBrace then 1
  else if q = .outside ∧ b = closeBrace then -1
  else 0

/-- What a text adds to the count. -/
def nesting : Quoting → Octets → Int
  | _, [] => 0
  | q, b :: s => q.brace b + nesting (q.next b) s

/-- The count at `k` of a scan that begins at `start`. -/
def openAt (s : Octets) (start k : Nat) : Int :=
  nesting .outside ((s.drop start).take (k - start))

/-- Where the scan goes on, its own count is that with a sign, and does not fall to zero. -/
theorem nest_eq_add_brace {b : UInt8} (hdepth : 1 ≤ depth)
    (hgo : ¬(q = .outside ∧ b = closeBrace ∧ depth ≤ 1)) :
    1 ≤ q.nest b depth ∧ (q.nest b depth : Int) = depth + q.brace b := by
  unfold Quoting.nest Quoting.brace
  split_ifs with hopen hclose
  · omega
  · have hdeep : ¬depth ≤ 1 := fun h => hgo ⟨hclose.1, hclose.2, h⟩
    omega
  · omega

/-- As long as the scan goes on, some brace is open. -/
theorem nesting_pos (hdepth : 1 ≤ depth) (hk : ∀ n ∈ closing? q depth s, k < n) :
    0 < (depth : Int) + nesting q (s.take k) := by
  induction s generalizing q depth k with
  | nil =>
    rw [List.take_nil, nesting]
    omega
  | cons b s ih =>
    cases k with
    | zero =>
      rw [List.take_zero, nesting]
      omega
    | succ k =>
      rw [closing?_step] at hk
      split at hk
      · have := hk 1 rfl
        omega
      · next hgo =>
        obtain ⟨hnest, hcount⟩ := nest_eq_add_brace hdepth hgo
        have hrest := ih hnest fun n hn => Nat.lt_of_succ_lt_succ (hk _ (Option.mem_map_of_mem _ hn))
        rw [hcount] at hrest
        rw [List.take_succ_cons, nesting, ← Int.add_assoc]
        exact hrest

/-- The scan stops behind a closing brace, where no brace is open. -/
theorem nesting_closing? (hdepth : 1 ≤ depth) (h : closing? q depth s = some n) :
    0 < n ∧ n ≤ s.length ∧ s[n - 1]? = some closeBrace ∧ (depth : Int) + nesting q (s.take n) = 0 := by
  induction s generalizing q depth n with
  | nil => cases h
  | cons b s ih =>
    rw [closing?_step] at h
    split at h
    · next hstop =>
      obtain ⟨rfl, rfl, hone⟩ := hstop
      cases h
      refine ⟨Nat.one_pos, by simp, rfl, ?_⟩
      obtain rfl : depth = 1 := by omega
      rfl
    · next hgo =>
      obtain ⟨m, hm, rfl⟩ := Option.map_eq_some_iff.mp h
      obtain ⟨hnest, hcount⟩ := nest_eq_add_brace hdepth hgo
      obtain ⟨hpos, hle, hlast, hzero⟩ := ih hnest hm
      refine ⟨Nat.succ_pos m, Nat.succ_le_succ hle, ?_, ?_⟩
      · obtain ⟨m, rfl⟩ : ∃ k, m = k + 1 := ⟨m - 1, by omega⟩
        exact hlast
      · rw [hcount] at hzero
        rw [List.take_succ_cons, nesting, ← Int.add_assoc]
        exact hzero

/-! ### The scan from a brace -/

variable {start e : Nat}

theorem objectEnd?_of_ne_openBrace (h : s[start]? ≠ some openBrace) : objectEnd? s start = none := by
  rw [objectEnd?]
  split
  · rfl
  · next b r hdrop =>
    have hb : s[start]? = some b := by
      rw [← Nat.add_zero start, ← List.getElem?_drop, hdrop, List.getElem?_cons_zero]
    exact if_neg fun heq : b = openBrace => h (heq ▸ hb)

theorem openAt_start (s : Octets) (start : Nat) : openAt s start start = 0 := by
  rw [openAt, Nat.sub_self, List.take_zero, nesting]

theorem openAt_of_openBrace (h : s[start]? = some openBrace) (k : Nat) :
    openAt s start (start + 1 + k) = 1 + nesting .outside ((s.drop (start + 1)).take k) := by
  obtain ⟨hlt, hb⟩ := List.getElem?_eq_some_iff.mp h
  rw [openAt, List.drop_eq_getElem_cons hlt, hb, Nat.add_assoc, Nat.add_sub_cancel_left, Nat.add_comm 1,
    List.take_succ_cons, nesting]
  rfl

/-- As long as the scan goes on, the count is positive. -/
theorem openAt_pos (h : s[start]? = some openBrace) (hk : start < k)
    (hgo : ∀ e ∈ objectEnd? s start, k < e) : 0 < openAt s start k := by
  obtain ⟨k, rfl⟩ := Nat.exists_eq_add_of_lt hk
  rw [Nat.add_right_comm, openAt_of_openBrace h]
  refine nesting_pos (Nat.le_refl 1) fun n hn => ?_
  have hend := hgo (start + 1 + n) (objectEnd?_of_openBrace h ▸ Option.mem_map_of_mem _ hn)
  omega

/-- The scan stops behind a closing brace, where the count is back at zero. -/
theorem openAt_objectEnd? (h : objectEnd? s start = some e) : s[start]? = some openBrace ∧
    start < e ∧ e ≤ s.length ∧ s[e - 1]? = some closeBrace ∧ openAt s start e = 0 := by
  have hbrace : s[start]? = some openBrace := by
    by_contra hne
    rw [objectEnd?_of_ne_openBrace hne] at h
    cases h
  rw [objectEnd?_of_openBrace hbrace] at h
  obtain ⟨n, hn, rfl⟩ := Option.map_eq_some_iff.mp h
  obtain ⟨hpos, hle, hlast, hzero⟩ := nesting_closing? (Nat.le_refl 1) hn
  rw [List.length_drop] at hle
  refine ⟨hbrace, by omega, by omega, ?_, ?_⟩
  · rw [List.getElem?_drop] at hlast
    rwa [Nat.add_sub_assoc hpos]
  · rw [openAt_of_openBrace hbrace]
    exact hzero

/-- The end of an object is where the count first comes back to zero. -/
theorem objectEnd?_eq_some_iff : objectEnd? s start = some e ↔ s[start]? = some openBrace ∧
    start < e ∧ e ≤ s.length ∧ openAt s start e = 0 ∧
      ∀ k, start < k → k < e → 0 < openAt s start k := by
  constructor
  · intro h
    obtain ⟨hbrace, hlt, hle, -, hzero⟩ := openAt_objectEnd? h
    refine ⟨hbrace, hlt, hle, hzero, fun k hk hke => openAt_pos hbrace hk fun e' he' => ?_⟩
    obtain rfl : e = e' := Option.some.inj (h.symm.trans he')
    exact hke
  · rintro ⟨hbrace, hlt, -, hzero, hpos⟩
    have hstops : ¬∀ e' ∈ objectEnd? s start, e < e' := fun hgo => by
      have := openAt_pos hbrace hlt hgo
      omega
    simp only [not_forall] at hstops
    obtain ⟨e', he', hle⟩ := hstops
    obtain ⟨-, hlt', -, -, hzero'⟩ := openAt_objectEnd? he'
    obtain rfl : e' = e := by
      by_contra hne
      have := hpos e' hlt' (by omega)
      omega
    exact he'

/-- The scan from a brace never counts below zero. -/
theorem openAt_nonneg (h : s[start]? = some openBrace) (hk : start ≤ k)
    (hgo : ∀ e ∈ objectEnd? s start, k ≤ e) : 0 ≤ openAt s start k := by
  obtain rfl | hlt := Nat.eq_or_lt_of_le hk
  · exact Int.le_of_eq (openAt_start s start).symm
  · by_cases hend : objectEnd? s start = some k
    · exact Int.le_of_eq (openAt_objectEnd? hend).2.2.2.2.symm
    · refine Int.le_of_lt (openAt_pos h hlt fun e he => Nat.lt_of_le_of_ne (hgo e he) ?_)
      rintro rfl
      exact hend he

/-- An object that the reader accepts ends, for the scan from its brace, where the reader is done with it, whatever
stands around it and also with some of its control characters raw. On any octets the scan begins at an opening
brace only, its count never falls below zero, and it stops where this first comes back to zero, behind a closing
brace of the text. -/
theorem object_end_found :
    (∀ (levels : Nat) (text raw behind front after : Octets) (fields : Fields),
      text.head? = some openBrace → readValue levels (text ++ behind) = .ok (.object fields, behind) →
      Unescapes .outside text raw →
        objectEnd? (front ++ raw ++ after) front.length = some (front.length + raw.length)) ∧
    ∀ (s : Octets) (start : Nat),
      (s[start]? ≠ some openBrace → objectEnd? s start = none) ∧
      (s[start]? = some openBrace → ∀ k, start ≤ k → (∀ e, objectEnd? s start = some e → k ≤ e) →
        0 ≤ openAt s start k) ∧
      ∀ e, objectEnd? s start = some e → start < e ∧ e ≤ s.length ∧ s[e - 1]? = some closeBrace ∧
        openAt s start e = 0 ∧ ∀ k, start < k → k < e → 0 < openAt s start k := by
  refine ⟨fun levels text raw behind front after fields hbrace hread hraw =>
    objectEnd?_unescaped hbrace hread hraw front after, fun s start => ⟨objectEnd?_of_ne_openBrace, ?_, ?_⟩⟩
  · exact fun hbrace k hk hgo => openAt_nonneg hbrace hk hgo
  · intro e he
    obtain ⟨-, hlt, hle, hlast, hzero⟩ := openAt_objectEnd? he
    exact ⟨hlt, hle, hlast, hzero, (objectEnd?_eq_some_iff.mp he).2.2.2.2⟩

/-- An object with braces, an escaped quote and a line feed in its strings. -/
def bracedObject (lineFeed : Octets) : Octets :=
  ofText "\x7b\"\\\"\x7d\":\"\x7b" ++ (lineFeed ++ ofText "\",\"b\":\x7b\x7d\x7d")

theorem object_end_found_braced :
    objectEnd? (ofText "\"\x7d" ++ bracedObject [0x0a] ++ ofText "\x7d\"") 2 = some 21 := by
  have hread : readValue maxLevels (bracedObject [backslash, 0x6e] ++ []) =
      .ok (.object [("\"\x7d", .string "\x7b\n"), ("b", .object [])], []) := by
    decide +kernel
  have hraw : Unescapes .outside (bracedObject [backslash, 0x6e]) (bracedObject [0x0a]) :=
    .append _ (.undo (by decide) (.letter (by decide)) (.refl _ _))
  exact object_end_found.1 _ _ _ _ _ _ _ rfl hread hraw

end ListingCrawl.Json
