import ListingCrawl.Proofs.Json.Numerals
import ListingCrawl.Proofs.Json.Strings

/-! Control characters in string literals may be spelled in several ways: by a letter behind a backslash, by
hexadecimal digits, or raw, which the reader refuses. If escapes are undone and what is then raw is escaped
again, nothing but the spelling of control characters has changed. -/

namespace ListingCrawl.Json

open Octets

/-! ### Spellings of control characters -/

/-- Control characters with the letters that stand for them behind a backslash. -/
def controlLetters : List (UInt8 × UInt8) :=
  [(0x08, 0x62), (0x0c, 0x66), (0x0a, 0x6e), (0x0d, 0x72), (0x09, 0x74)]

/-- An escape of the control character `b`: its letter or its hexadecimal digits. -/
inductive IsControlEscape (b : UInt8) : Octets → Prop where
  | letter {x : UInt8} (h : (b, x) ∈ controlLetters) : IsControlEscape b [backslash, x]
  | digits {high low : UInt8} (hhigh : hexValue? high = some (b.toNat / 16))
      (hlow : hexValue? low = some (b.toNat % 16)) :
    IsControlEscape b [backslash, 0x75, 0x30, 0x30, high, low]

/-- The second text is the first with some escapes of control characters undone. The place of the scanner
tells which parts of the first stand inside string literals. -/
inductive Unescapes : Quoting → Octets → Octets → Prop where
  | nil (q : Quoting) : Unescapes q [] []
  | keep {q : Quoting} {b : UInt8} {s t : Octets} (h : Unescapes (q.next b) s t) :
    Unescapes q (b :: s) (b :: t)
  | undo {b : UInt8} {e s t : Octets} (hb : b < 0x20) (he : IsControlEscape b e)
      (h : Unescapes .inside s t) : Unescapes .inside (e ++ s) (b :: t)

/-- The second text is the first with some control characters spelled by other escapes. -/
inductive Respells : Quoting → Octets → Octets → Prop where
  | nil (q : Quoting) : Respells q [] []
  | keep {q : Quoting} {b : UInt8} {s t : Octets} (h : Respells (q.next b) s t) :
    Respells q (b :: s) (b :: t)
  | escape {b : UInt8} {e e' s t : Octets} (hb : b < 0x20) (he : e = [b] ∨ IsControlEscape b e)
      (he' : IsControlEscape b e') (h : Respells .inside s t) : Respells .inside (e ++ s) (e' ++ t)

theorem Unescapes.refl (q : Quoting) (s : Octets) : Unescapes q s s := by
  induction s generalizing q with
  | nil => exact .nil q
  | cons b s ih => exact .keep (ih _)

/-- What stands in front may stay as it is. -/
theorem Unescapes.append {q : Quoting} {s t : Octets} (p : Octets)
    (h : Unescapes (p.foldl Quoting.next q) s t) : Unescapes q (p ++ s) (p ++ t) := by
  induction p generalizing q with
  | nil => exact h
  | cons b p ih => exact .keep (ih h)

theorem isControlEscape_controlEscape {b : UInt8} (hb : b < 0x20) :
    IsControlEscape b (controlEscape b) := by
  have hlt : b.toNat < 0x20 := UInt8.lt_iff_toNat_lt.mp hb
  unfold controlEscape
  split_ifs with hn hr ht hb hf
  · exact .letter (by simp [hn, controlLetters])
  · exact .letter (by simp [hr, controlLetters])
  · exact .letter (by simp [ht, controlLetters])
  · exact .letter (by simp [hb, controlLetters])
  · exact .letter (by simp [hf, controlLetters])
  · exact .digits (hexValue?_hexDigit _ (by omega)) (hexValue?_hexDigit _ (by omega))

/-- An escape is read as its control character. -/
theorem IsControlEscape.read {b : UInt8} {e : Octets} (h : IsControlEscape b e) (hb : b < 0x20) :
    ∃ x, e = backslash :: x ∧ ∀ u, readEscape (x ++ u) = .ok ([b], u) := by
  cases h with
  | letter h =>
    refine ⟨_, rfl, fun u => ?_⟩
    simp only [controlLetters, List.mem_cons, Prod.mk.injEq, List.not_mem_nil, or_false] at h
    obtain ⟨rfl, rfl⟩ | ⟨rfl, rfl⟩ | ⟨rfl, rfl⟩ | ⟨rfl, rfl⟩ | ⟨rfl, rfl⟩ := h <;> rfl
  | @digits high low hhigh hlow =>
    refine ⟨_, rfl, fun u => ?_⟩
    have hlt : b.toNat < 0x20 := UInt8.lt_iff_toNat_lt.mp hb
    have hchar : ofChar (Char.ofNat b.toNat) = [b] := by
      rw [ofChar_ofNat _ (by omega), UInt8.ofNat_toNat]
    have hread := readEscape_digits hhigh hlow (by omega) u
    rw [hchar] at hread
    exact hread

theorem Quoting.next_inside {b : UInt8} (hquote : b ≠ quote) (hback : b ≠ backslash) :
    Quoting.inside.next b = .inside := by
  rw [Quoting.next, if_neg hback, if_neg hquote]

theorem Quoting.next_outside {b : UInt8} (hquote : b ≠ quote) : Quoting.outside.next b = .outside := by
  rw [Quoting.next, if_neg hquote]

theorem ne_of_control {b c : UInt8} (hb : b < 0x20) (hc : ¬c < 0x20) : b ≠ c := by
  rintro rfl
  exact hc hb

/-- Escaping control characters after some escapes were undone only respells them. -/
theorem Unescapes.respells {q : Quoting} {s t : Octets} (h : Unescapes q s t) :
    Respells q s (escapeControlsFrom q t) := by
  induction h with
  | nil q => exact .nil q
  | @keep q b s t _ ih =>
    rw [escapeControlsFrom]
    split
    · next hctl =>
      obtain ⟨rfl, hb⟩ := hctl
      rw [Quoting.next_inside (ne_of_control hb (by decide)) (ne_of_control hb (by decide))] at ih
      exact .escape hb (.inl rfl) (isControlEscape_controlEscape hb) ih
    · exact .keep ih
  | @undo b e s t hb he _ ih =>
    rw [escapeControlsFrom, if_pos ⟨rfl, hb⟩]
    exact .escape hb (.inr he) (isControlEscape_controlEscape hb) ih

end ListingCrawl.Json
