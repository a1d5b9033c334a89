import Mathlib.Algebra.Group.Nat.Defs
import ListingCrawl.Proofs.Text.Trim
import ListingCrawl.Time.Instant

/-! The clock's readings are texts of RFC 3339: the digits of a field are read back as its value, and what
is read is the moment itself. -/

namespace ListingCrawl.Time

/-! ### Digits -/

theorem digitChar_props {n : Nat} (h : n < 10) :
    (Nat.digitChar n).isDigit = true ∧ digitValue (Nat.digitChar n) = n := by
  match n with
  | 0 | 1 | 2 | 3 | 4 | 5 | 6 | 7 | 8 | 9 => decide
  | n + 10 => omega

theorem length_padded (width n : Nat) : (padded width n).length = width := by
  induction width generalizing n with
  | zero => rfl
  | succ width ih => simp [padded, ih]

theorem isDigit_padded (width n : Nat) : ∀ c ∈ padded width n, c.isDigit = true := by
  induction width generalizing n with
  | zero => simp [padded]
  | succ width ih =>
    intro c hc
    rw [padded, List.mem_append, List.mem_singleton] at hc
    obtain hc | rfl := hc
    · exact ih _ c hc
    · exact (digitChar_props (Nat.mod_lt n (by decide))).1

/-- The digits of a number that fits have its value. -/
theorem foldl_padded {width n : Nat} (h : n < 10 ^ width) :
    (padded width n).foldl (fun n c => n * 10 + digitValue c) 0 = n := by
  induction width generalizing n with
  | zero =>
    rw [Nat.pow_zero] at h
    obtain rfl : n = 0 := by omega
    rfl
  | succ width ih =>
    have hdiv : n / 10 < 10 ^ width := by
      rw [Nat.pow_succ] at h
      omega
    rw [padded, List.foldl_append, ih hdiv, List.foldl_cons, List.foldl_nil,
      (digitChar_props (Nat.mod_lt n (by decide))).2]
    omega

theorem digits?_padded {width n : Nat} (h : n < 10 ^ width) (r : List Char) :
    digits? width (padded width n ++ r) = some (n, r) := by
  have htake : (padded width n ++ r).take width = padded width n :=
    List.take_left' (length_padded width n)
  have hdrop : (padded width n ++ r).drop width = r := List.drop_left' (length_padded width n)
  have hall : (padded width n).all Char.isDigit = true :=
    List.all_eq_true.mpr (isDigit_padded width n)
  simp only [digits?, htake, hdrop, hall, length_padded, foldl_padded h, and_self, if_true]

/-! ### Readings of the clock -/

theorem daysInMonth_le (year month : Nat) : daysInMonth year month ≤ 31 := by
  unfold daysInMonth
  split
  · split <;> omega
  · split <;> omega

namespace Instant

theorem readDateTime?_rfc3339 (t : Instant) : readDateTime? t.rfc3339.toList =
    some (t.time, '.' :: padded 3 t.milli ++ ['Z']) := by
  have hvalid := t.valid
  simp only [DateTime.isValid, Bool.and_eq_true, decide_eq_true_eq] at hvalid
  obtain ⟨⟨⟨⟨⟨⟨⟨hyear, -⟩, hmonth⟩, -⟩, hday⟩, hhour⟩, hminute⟩, hsecond⟩ := hvalid
  have hdays := daysInMonth_le t.time.year t.time.month
  have year := @digits?_padded 4 t.time.year (by omega)
  have month := @digits?_padded 2 t.time.month (by omega)
  have day := @digits?_padded 2 t.time.day (by omega)
  have hour := @digits?_padded 2 t.time.hour (by omega)
  have minute := @digits?_padded 2 t.time.minute (by omega)
  have second := @digits?_padded 2 t.time.second (by omega)
  simp [readDateTime?, rfc3339, year, month, day, hour, minute, second, oneOf?]

theorem fraction?_milli (n : Nat) : fraction? ('.' :: padded 3 n ++ ['Z']) = some ['Z'] := by
  have hdigits := isDigit_padded 3 n
  cases hp : padded 3 n with
  | nil => simp [padded] at hp
  | cons c cs =>
    rw [hp] at hdigits
    have hc := hdigits c List.mem_cons_self
    have hcs : ∀ d ∈ cs, d.isDigit = true := fun d hd => hdigits d (List.mem_cons_of_mem _ hd)
    simp only [List.cons_append, fraction?, hc, if_true]
    rw [List.dropWhile_append_of_pos hcs]
    rfl

/-- Every reading is a text of RFC 3339. -/
theorem isRfc3339_rfc3339 (t : Instant) : isRfc3339 t.rfc3339 = true := by
  simp only [isRfc3339, readDateTime?_rfc3339, fraction?_milli, t.valid, Bool.true_and]
  rfl

/-- A reading begins with a digit and ends with the mark of UTC. -/
theorem exists_rfc3339 (t : Instant) :
    ∃ c mid, c.isDigit = true ∧ t.rfc3339.toList = c :: mid ++ ['Z'] := by
  have hdigits := isDigit_padded 4 t.time.year
  cases hp : padded 4 t.time.year with
  | nil => simp [padded] at hp
  | cons c cs =>
    rw [hp] at hdigits
    refine ⟨c, cs ++ '-' :: padded 2 t.time.month ++ '-' :: padded 2 t.time.day ++
      'T' :: padded 2 t.time.hour ++ ':' :: padded 2 t.time.minute ++
      ':' :: padded 2 t.time.second ++ '.' :: padded 3 t.milli, hdigits c List.mem_cons_self, ?_⟩
    simp [rfc3339, hp]

theorem trim_rfc3339 (t : Instant) : Text.trim t.rfc3339 = t.rfc3339 := by
  obtain ⟨c, mid, hc, ht⟩ := t.exists_rfc3339
  apply Text.trim_eq_self
  rw [ht]
  constructor
  · rintro _ ⟨⟩
    exact Text.isBlank_of_isDigit hc
  · intro d hd
    rw [List.getLast?_concat] at hd
    cases hd
    decide

theorem isBlankText_rfc3339 (t : Instant) : Text.isBlankText t.rfc3339 = false := by
  obtain ⟨c, mid, hc, ht⟩ := t.exists_rfc3339
  refine Text.isBlankText_eq_false (c := c) ?_ (Text.isBlank_of_isDigit hc)
  rw [ht]
  exact List.mem_cons_self

end Instant

end ListingCrawl.Time
