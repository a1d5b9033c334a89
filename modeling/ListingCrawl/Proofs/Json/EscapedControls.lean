import ListingCrawl.Proofs.Json.ClosingBrace

/-! Escaping control characters, octet by octet. Each octet has a place: outside of string literals, inside one, or
behind a backslash there. Only a control character inside a literal is replaced, and its escape leaves the scanner
where the character itself would have left it, so a scan of the result is the scan of the text with escapes in
some places. All laws of escaping come from this. -/

namespace ListingCrawl.Json

open Octets

variable {q : Quoting} {s : Octets} {b : UInt8}

/-! ### Octets with their places -/

/-- The place behind a text. -/
def Quoting.after (q : Quoting) (s : Octets) : Quoting :=
  s.foldl Quoting.next q

/-- Each octet of a text with its place. -/
def placed : Quoting → Octets → List (Quoting × UInt8)
  | _, [] => []
  | q, b :: s => (q, b) :: placed (q.next b) s

/-- The octets outside of string literals. -/
def outsideOctets (s : Octets) : Octets :=
  ((placed .outside s).filter (·.1 = .outside)).map (·.2)

/-- What is written for an octet at its place. -/
def escapedAt (m : Quoting × UInt8) : Octets :=
  if m.1 = .inside ∧ m.2 < 0x20 then controlEscape m.2 else [m.2]

/-- No control character stands raw in a string literal. -/
def NoRawControls (q : Quoting) (s : Octets) : Prop :=
  ∀ m ∈ placed q s, ¬(m.1 = .inside ∧ m.2 < 0x20)

theorem Quoting.after_append (q : Quoting) (s t : Octets) : q.after (s ++ t) = (q.after s).after t :=
  List.foldl_append

theorem placed_append (q : Quoting) (s t : Octets) :
    placed q (s ++ t) = placed q s ++ placed (q.after s) t := by
  induction s generalizing q with
  | nil => rfl
  | cons b s ih => rw [List.cons_append, placed, ih]; rfl

theorem noRawControls_append {t : Octets} :
    NoRawControls q (s ++ t) ↔ NoRawControls q s ∧ NoRawControls (q.after s) t := by
  rw [NoRawControls, placed_append, List.forall_mem_append]
  rfl

theorem noRawControls_cons :
    NoRawControls q (b :: s) ↔ ¬(q = .inside ∧ b < 0x20) ∧ NoRawControls (q.next b) s := by
  rw [NoRawControls, placed, List.forall_mem_cons]
  rfl

/-- Over a content of a literal the scanner stays inside of the literal. -/
theorem IsContent.after_inside {c : Octets} (hc : IsContent c) : Quoting.inside.after c = .inside := by
  induction hc with
  | nil => rfl
  | plain hb _ ih =>
    rw [Quoting.after, List.foldl_cons, Quoting.next_inside hb.1 hb.2.1]
    exact ih
  | escape _ ih => exact ih

/-- No octet of a content is outside of the literal, and no control character of it is raw. -/
theorem IsContent.placed {c : Octets} (hc : IsContent c) :
    ∀ m ∈ placed .inside c, m.1 ≠ .outside ∧ ¬(m.1 = .inside ∧ m.2 < 0x20) := by
  induction hc with
  | nil => exact fun m hm => absurd hm List.not_mem_nil
  | plain hb _ ih =>
    rw [Json.placed, Quoting.next_inside hb.1 hb.2.1, List.forall_mem_cons]
    exact ⟨⟨nofun, fun h => hb.2.2 h.2⟩, ih⟩
  | @escape x c _ ih =>
    have hescaped : Quoting.inside.next backslash = .escaped := rfl
    rw [Json.placed, hescaped, Json.placed, List.forall_mem_cons, List.forall_mem_cons]
    exact ⟨by decide, ⟨nofun, nofun⟩, ih⟩

theorem IsContent.noRawControls {c : Octets} (hc : IsContent c) : NoRawControls .inside c :=
  fun m hm => (hc.placed m hm).2

/-! ### What becomes of each octet -/

theorem escapeControlsFrom_cons (q : Quoting) (b : UInt8) (s : Octets) :
    escapeControlsFrom q (b :: s) = escapedAt (q, b) ++ escapeControlsFrom (q.next b) s := by
  rw [escapeControlsFrom, escapedAt]
  split
  · next hctl =>
    obtain ⟨rfl, hb⟩ := hctl
    rw [Quoting.next_inside (ne_of_control hb (by decide)) (ne_of_control hb (by decide))]
  · rfl

/-- Each octet is copied, but for control characters in string literals. -/
theorem escapeControlsFrom_eq (q : Quoting) (s : Octets) :
    escapeControlsFrom q s = (placed q s).flatMap escapedAt := by
  induction s generalizing q with
  | nil => rfl
  | cons b s ih => rw [escapeControlsFrom_cons, ih]; rfl

/-- The scanner gets to the same place over what is written for an octet, and finds no raw control there. -/
theorem escapedAt_passed (q : Quoting) (b : UInt8) :
    q.after (escapedAt (q, b)) = q.next b ∧ NoRawControls q (escapedAt (q, b)) := by
  rw [escapedAt]
  split
  · next hctl =>
    obtain ⟨rfl, hb⟩ := hctl
    rw [Quoting.next_inside (ne_of_control hb (by decide)) (ne_of_control hb (by decide))]
    have hc := (isControlEscape_controlEscape hb).isContent
    exact ⟨hc.after_inside, hc.noRawControls⟩
  · next hctl =>
    exact ⟨rfl, noRawControls_cons.mpr ⟨hctl, by simp [NoRawControls, placed]⟩⟩

/-- The scan of the result is that of the text, with escapes in place of raw control characters. -/
theorem placed_escapeControlsFrom (q : Quoting) (s : Octets) :
    placed q (escapeControlsFrom q s) = (placed q s).flatMap fun m => placed m.1 (escapedAt m) := by
  induction s generalizing q with
  | nil => rfl
  | cons b s ih =>
    rw [escapeControlsFrom_cons, placed_append, (escapedAt_passed q b).1, ih]
    rfl

theorem noRawControls_escapeControlsFrom (q : Quoting) (s : Octets) :
    NoRawControls q (escapeControlsFrom q s) := by
  rw [NoRawControls, placed_escapeControlsFrom, List.forall_mem_flatMap]
  exact fun m _ => (escapedAt_passed m.1 m.2).2

/-- Exactly the texts without raw control characters in string literals stay as they are. -/
theorem escapeControlsFrom_eq_self_iff : escapeControlsFrom q s = s ↔ NoRawControls q s := by
  induction s generalizing q with
  | nil => simp [escapeControlsFrom, NoRawControls, placed]
  | cons b s ih =>
    rw [escapeControlsFrom, noRawControls_cons]
    split
    · next hctl =>
      refine ⟨fun h => ?_, fun h => absurd hctl h.1⟩
      -- an escape begins with a backslash, which is no control character
      obtain ⟨x, hx, -⟩ := (isControlEscape_controlEscape hctl.2).read hctl.2
      rw [hx] at h
      exact absurd (List.cons.inj h).1.symm (ne_of_control hctl.2 (by decide))
    · next hctl => rw [List.cons_inj_right, ih, and_iff_right hctl]

/-! ### Octets outside of string literals -/

theorem filter_placed_escapedAt (m : Quoting × UInt8) :
    (placed m.1 (escapedAt m)).filter (·.1 = .outside) = [m].filter (·.1 = .outside) := by
  rw [escapedAt]
  split
  · next hctl =>
    have hc := (isControlEscape_controlEscape hctl.2).isContent
    have hnone : (placed .inside (controlEscape m.2)).filter (·.1 = .outside) = [] :=
      List.filter_eq_nil_iff.mpr fun x hx => by simpa using (hc.placed x hx).1
    rw [hctl.1, hnone, List.filter_cons_of_neg (by simp [hctl.1]), List.filter_nil]
  · rfl

/-- Outside of string literals the result has the octets of the text, in their order. -/
theorem outsideOctets_escapeControls (s : Octets) : outsideOctets (escapeControls s) = outsideOctets s := by
  rw [outsideOctets, outsideOctets, escapeControls, placed_escapeControlsFrom, List.filter_flatMap]
  congr 1
  calc (placed .outside s).flatMap (fun m => (placed m.1 (escapedAt m)).filter (·.1 = .outside))
      = (placed .outside s).flatMap (fun m => [m].filter (·.1 = .outside)) := by
        simp only [filter_placed_escapedAt]
    _ = ((placed .outside s).flatMap fun m => [m]).filter (·.1 = .outside) := List.filter_flatMap.symm
    _ = (placed .outside s).filter (·.1 = .outside) := by rw [List.flatMap_singleton']

/-! ### Documents -/

theorem noRawControls_of_not_mem (h : quote ∉ s) : NoRawControls .outside s := by
  induction s with
  | nil => exact fun m hm => absurd hm List.not_mem_nil
  | cons b s ih =>
    rw [List.mem_cons, not_or] at h
    rw [noRawControls_cons, Quoting.next_outside (Ne.symm h.1)]
    exact ⟨by simp, ih h.2⟩

/-- What has been read of `s` before `t` ends outside of string literals and has no raw control characters. -/
def CleanUpTo (s t : Octets) : Prop :=
  ∃ passed, s = passed ++ t ∧ Quoting.outside.after passed = .outside ∧ NoRawControls .outside passed

theorem CleanUpTo.advance {c t : Octets} (h : CleanUpTo s (c ++ t)) (hafter : Quoting.outside.after c = .outside)
    (hc : NoRawControls .outside c) : CleanUpTo s t := by
  obtain ⟨passed, hs, hout, hclean⟩ := h
  refine ⟨passed ++ c, by rw [hs, List.append_assoc], ?_, noRawControls_append.mpr ⟨hclean, ?_⟩⟩
  · rw [Quoting.after_append, hout, hafter]
  · rwa [hout]

theorem CleanUpTo.step {t : Octets} (hb : b ≠ quote) (h : CleanUpTo s (b :: t)) : CleanUpTo s t :=
  CleanUpTo.advance (c := [b]) h (Quoting.next_outside hb) (noRawControls_of_not_mem (by simpa using Ne.symm hb))

/-- The reader takes nothing with raw control characters in string literals. -/
theorem cleanUpTo_kept (s : Octets) :
    ReadInvariant (fun _ => CleanUpTo s) (fun _ => CleanUpTo s) fun _ => True where
  ordinary hb h := h.step hb.1
  opens h := h.step (by decide)
  behind := id
  punctuation hb h := h.step hb.isOrdinary.1
  closes h := h.step (by decide)
  literal {n c r text} hc _ h := by
    have hsplit : quote :: (c ++ quote :: r) = quote :: (c ++ [quote]) ++ r := by simp
    have hopened : Quoting.outside.next quote = .inside := rfl
    refine ⟨trivial, CleanUpTo.advance (hsplit ▸ h) ?_ ?_⟩
    · change Quoting.inside.after (c ++ [quote]) = .outside
      rw [Quoting.after_append, hc.after_inside]
      rfl
    · rw [noRawControls_cons, hopened, noRawControls_append, hc.after_inside]
      exact ⟨by simp, hc.noRawControls, noRawControls_cons.mpr ⟨by decide, noRawControls_of_not_mem (by simp)⟩⟩

/-- A document has no raw control characters in its string literals, however deep it is nested. -/
theorem noRawControls_of_readValue {levels : Nat} {v : Json} {r : Octets} (h : readValue levels s = .ok (v, r))
    (hr : skipSpace r = []) : NoRawControls .outside s := by
  have hstart : CleanUpTo s s := ⟨[], rfl, rfl, noRawControls_of_not_mem (by simp)⟩
  obtain ⟨passed, rfl, hout, hclean⟩ := (cleanUpTo_kept s).keeps_readValue levels 0 _ _ _ h hstart
  rw [noRawControls_append, hout]
  refine ⟨hclean, noRawControls_of_not_mem fun hquote => ?_⟩
  exact absurd (List.dropWhile_eq_nil_iff.mp hr quote hquote) (by decide)

/-! ### Control characters in the result -/

theorem Quoting.next_eq_escaped_iff : q.next b = .escaped ↔ q = .inside ∧ b = backslash := by
  cases q with
  | outside =>
    rw [Quoting.next]
    split_ifs <;> simp
  | inside =>
    rw [Quoting.next]
    split_ifs with hback <;> simp [hback]
  | escaped => simp [Quoting.next]

/-- An octet is escaped if an unescaped backslash in a literal stands before it. -/
theorem after_eq_escaped_iff : Quoting.outside.after s = .escaped ↔
    ∃ front, s = front ++ [backslash] ∧ Quoting.outside.after front = .inside := by
  constructor
  · intro h
    obtain rfl | ⟨front, b, rfl⟩ := List.eq_nil_or_concat s
    · cases h
    · rw [List.concat_eq_append, Quoting.after_append] at h
      obtain ⟨hin, rfl⟩ := Quoting.next_eq_escaped_iff.mp h
      exact ⟨front, List.concat_eq_append, hin⟩
  · rintro ⟨front, rfl, hin⟩
    rw [Quoting.after_append, hin]
    rfl

theorem mem_placed (q : Quoting) (before : Octets) (b : UInt8) (after : Octets) :
    (q.after before, b) ∈ placed q (before ++ b :: after) := by
  rw [placed_append, placed]
  exact List.mem_append_right _ List.mem_cons_self

/-! ### Escaping -/

/-- Escaping control characters is a normal form. It leaves exactly those texts as they are that have no raw control
characters in string literals, and every document is one of them. All octets are copied but for these characters,
so outside of literals nothing changes, seen by a scanner of the text or of the result. In the result a control
character stands outside of literals, or inside one behind a backslash that is not itself escaped. -/
theorem escapeControls_laws (s : Octets) :
    escapeControls (escapeControls s) = escapeControls s ∧
      (escapeControls s = s ↔ NoRawControls .outside s) ∧
      (∀ levels v r, readValue levels s = .ok (v, r) → skipSpace r = [] → escapeControls s = s) ∧
      (escapeControls s = (placed .outside s).flatMap escapedAt ∧
        outsideOctets (escapeControls s) = outsideOctets s) ∧
      ∀ before b after, escapeControls s = before ++ b :: after → b < 0x20 →
        Quoting.outside.after before = .outside ∨
          ∃ front, before = front ++ [backslash] ∧ Quoting.outside.after front = .inside := by
  have hnone : NoRawControls .outside (escapeControls s) := noRawControls_escapeControlsFrom _ _
  refine ⟨escapeControlsFrom_eq_self_iff.mpr hnone, escapeControlsFrom_eq_self_iff, fun levels v r hread hr => ?_,
    ⟨escapeControlsFrom_eq _ _, outsideOctets_escapeControls s⟩, fun before b after hsplit hb => ?_⟩
  · exact escapeControlsFrom_eq_self_iff.mpr (noRawControls_of_readValue hread hr)
  · have hplace := hnone _ (hsplit ▸ mem_placed .outside before b after)
    cases hq : Quoting.outside.after before with
    | outside => exact .inl rfl
    | inside => exact absurd ⟨hq, hb⟩ hplace
    | escaped => exact .inr (after_eq_escaped_iff.mp hq)

/-- A control character behind a backslash stays, and the literal goes on behind it. -/
example : escapeControls (ofText "\n\"\\\n\n") = ofText "\n\"\\\n\\n" := by
  decide

end ListingCrawl.Json
