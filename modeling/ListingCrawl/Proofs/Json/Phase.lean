import ListingCrawl.Proofs.Json.ObjectText
import ListingCrawl.Proofs.Json.ReadInvariant
import ListingCrawl.Proofs.Json.Respelling

/-! An object text read out of phase. A reader that starts inside one of its string literals takes what
stands between two literals for the content of a string, and the content of literals for structure. No
backslash stands between literals, and the reader takes none for structure, so both change places at the
same quotes all along. What stands between two literals begins with a space or a sign of structure, and so
does every key that is read. -/

namespace ListingCrawl.Json

open Octets

/-! ### Object texts seen by a scanner -/

/-- What may stand behind a string literal. -/
def IsSeparator (b : UInt8) : Prop :=
  IsPunctuation b ∨ b = closeBrace

def EndsLiteral (s : Octets) : Prop :=
  ∀ b ∈ s.head?, IsSeparator b

/-- Seen from the place `q`, there is no backslash outside string literals, and none of them is followed by
anything but a separator. -/
def Orderly : Quoting → Octets → Prop
  | _, [] => True
  | q, b :: s => (q = .outside → b ≠ backslash) ∧ (q = .inside → b = quote → EndsLiteral s) ∧
      Orderly (q.next b) s

theorem IsSeparator.ne {b : UInt8} (h : IsSeparator b) : b ≠ quote ∧ b ≠ backslash := by
  obtain h | rfl := h
  · exact ⟨h.isOrdinary.1, h.isOrdinary.2.1⟩
  · decide

theorem Orderly.of_append {q : Quoting} {s t : Octets} (h : Orderly q (s ++ t)) :
    Orderly (s.foldl Quoting.next q) t := by
  induction s generalizing q with
  | nil => exact h
  | cons b s ih => exact ih h.2.2

theorem orderly_cons_outside {b : UInt8} {s : Octets} (hquote : b ≠ quote) :
    Orderly .outside (b :: s) ↔ b ≠ backslash ∧ Orderly .outside s := by
  simp [Orderly, Quoting.next_outside hquote]

theorem orderly_cons_inside {b : UInt8} {s : Octets} (hquote : b ≠ quote) (hback : b ≠ backslash) :
    Orderly .inside (b :: s) ↔ Orderly .inside s := by
  simp [Orderly, Quoting.next_inside hquote hback, hquote]

theorem orderly_quote {s : Octets} : Orderly .outside (quote :: s) ↔ Orderly .inside s :=
  ⟨fun h => h.2.2, fun h => ⟨fun _ => by decide, nofun, h⟩⟩

theorem orderly_escape {x : UInt8} {s : Octets} :
    Orderly .inside (backslash :: x :: s) ↔ Orderly .inside s :=
  ⟨fun h => h.2.2.2.2, fun h => ⟨nofun, fun _ hx => absurd hx (by decide), nofun, nofun, h⟩⟩

theorem orderly_content {c r : Octets} (hc : IsContent c) (hends : EndsLiteral r)
    (hr : Orderly .outside r) : Orderly .inside (c ++ quote :: r) := by
  induction hc with
  | nil => exact ⟨nofun, fun _ _ => hends, hr⟩
  | plain hb _ ih => exact (orderly_cons_inside hb.1 hb.2.1).mpr ih
  | escape _ ih => exact orderly_escape.mpr ih

/-- Read from its end to its front: if the octets left are orderly, so are those that were read. -/
theorem disorder_kept : ReadInvariant (fun _ s => ¬Orderly .outside s)
    (fun _ s => ¬(Orderly .outside s ∧ EndsLiteral s)) fun _ => True where
  ordinary hb h hs := h ((orderly_cons_outside hb.1).mpr ⟨hb.2.1, hs⟩)
  opens h hs := h ((orderly_cons_outside (by decide)).mpr ⟨by decide, hs⟩)
  behind h hs := h hs.1
  punctuation hb h hs := h ⟨(orderly_cons_outside hb.isOrdinary.1).mpr ⟨hb.isOrdinary.2.1, hs⟩,
    fun _ hx => Option.mem_some_iff.mp hx ▸ .inl hb⟩
  closes h hs := h ⟨(orderly_cons_outside (by decide)).mpr ⟨by decide, hs⟩,
    fun _ hx => .inr (Option.mem_some_iff.mp hx).symm⟩
  literal hc _ h := ⟨trivial, fun hr => h (orderly_quote.mpr (orderly_content hc hr.2 hr.1))⟩

theorem IsObjectText.orderly {s : String} {fields : Fields} (h : IsObjectText s fields) :
    Orderly .outside (ofText s) := by
  obtain ⟨cs, ms, hcs, hms, -⟩ := isObjectText_iff.mp h
  rw [ofText, hcs, ofChars_openBrace]
  -- disorder at the front would be kept up to the end, where nothing is left
  by_contra hdis
  have hopened : ¬Orderly .outside (ofChars cs) := disorder_kept.opens (n := 0) hdis
  exact (disorder_kept.keeps_readMembers (n := 0) (disorder_kept.keeps_readValue 126 1) _ _ _ hms
    hopened).2 trivial

/-! ### Reading out of phase -/

/-- The text begins with a character that may stand behind a literal. -/
def StartsApart (text : String) : Prop :=
  ∃ b, IsSeparator b ∧ text.toList.head? = some (Char.ofNat b.toNat)

theorem not_startsApart_status : ¬StartsApart "status" := by
  rintro ⟨b, (hb | rfl | rfl | rfl) | rfl, hhead⟩
  · simp only [isSpace, Bool.or_eq_true, beq_iff_eq] at hb
    obtain ((rfl | rfl) | rfl) | rfl := hb
    all_goals
      revert hhead
      decide
  all_goals
    revert hhead
    decide

theorem head?_of_readString {b : UInt8} {s r : Octets} {text : String} (hplain : IsPlain b)
    (hb : b.toNat < 0x80) (h : readString (b :: s) = .ok (text, r)) :
    text.toList.head? = some (Char.ofNat b.toNat) := by
  rw [readString, bind_eq_ok] at h
  obtain ⟨⟨content, t⟩, hcontent, h⟩ := h
  rw [readContent, if_neg hplain.1, if_neg hplain.2.1, if_neg hplain.2.2, bind_eq_ok] at hcontent
  obtain ⟨⟨cs, u⟩, -, hcontent⟩ := hcontent
  cases hcontent
  dsimp only at h
  split at h
  · next htext =>
    cases h
    exact head?_of_toText? hb htext
  · cases h

theorem toNat_of_isSeparator {b : UInt8} (h : IsSeparator b) : b.toNat < 0x80 := by
  obtain (h | rfl | rfl | rfl) | rfl := h
  · simp only [isSpace, Bool.or_eq_true, beq_iff_eq] at h
    obtain ((rfl | rfl) | rfl) | rfl := h <;> decide
  all_goals decide

theorem startsApart_of_readString {c r : Octets} {text : String} (hc : IsContent c)
    (h : readString (c ++ quote :: r) = .ok (text, r)) (hs : Orderly .inside (quote :: (c ++ quote :: r))) :
    StartsApart text := by
  have hsep : ∀ b ∈ (c ++ quote :: r).head?, IsSeparator b := hs.2.1 rfl rfl
  cases hc with
  | nil => exact absurd rfl (hsep quote rfl).ne.1
  | @plain b c hplain hc =>
    have hb := hsep b rfl
    exact ⟨b, hb, head?_of_readString hplain (toNat_of_isSeparator hb) h⟩
  | escape hc => exact absurd rfl (hsep backslash rfl).ne.2

theorem Orderly.inside_of_content {c r : Octets} (hc : IsContent c)
    (h : Orderly .outside (c ++ quote :: r)) : Orderly .inside r := by
  induction hc with
  | nil => exact orderly_quote.mp h
  | plain hb _ ih => exact ih ((orderly_cons_outside hb.1).mp h).2
  | escape => exact absurd rfl (h.1 rfl)

/-- The reader stays out of phase, and every string that it reads starts apart. -/
theorem outOfPhase_kept : ReadInvariant (fun _ => Orderly .inside) (fun _ => Orderly .inside)
    StartsApart where
  ordinary hb := (orderly_cons_inside hb.1 hb.2.1).mp
  opens := (orderly_cons_inside (by decide) (by decide)).mp
  behind := id
  punctuation hb := (orderly_cons_inside hb.isOrdinary.1 hb.isOrdinary.2.1).mp
  closes := (orderly_cons_inside (by decide) (by decide)).mp
  literal hc hread h := ⟨startsApart_of_readString hc hread h, h.2.2.inside_of_content hc⟩

/-- The keys of an object that is read from inside a literal start apart. -/
theorem startsApart_of_readMembers {before after r : Octets} {ms : List (String × Json)}
    (hs : Orderly .outside (before ++ openBrace :: after))
    (hplace : before.foldl Quoting.next .outside ≠ .outside)
    (hread : readMembers (readValue 126) after = .ok (ms, r)) : ∀ m ∈ ms, StartsApart m.1 := by
  have hafter : Orderly .inside after := by
    have hbrace := hs.of_append.2.2
    cases hq : before.foldl Quoting.next .outside with
    | outside => exact absurd hq hplace
    | inside =>
      rw [hq] at hbrace
      exact hbrace
    | escaped =>
      rw [hq] at hbrace
      exact hbrace
  exact (outOfPhase_kept.keeps_readMembers (n := 0) (outOfPhase_kept.keeps_readValue 126 1) _ _ _ hread
    hafter).1

end ListingCrawl.Json
