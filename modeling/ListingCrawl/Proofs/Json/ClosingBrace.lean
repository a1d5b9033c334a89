import ListingCrawl.Proofs.Json.Indifference
import ListingCrawl.Proofs.Json.ObjectText
import ListingCrawl.Proofs.Json.ReadInvariant

/-! The brace that closes an object. A scanner that knows only quotes, backslashes and braces counts the
objects that are open. While an object is read, the count is right at every place outside of string literals,
so where the reader is done with the object, the scanner has just found the brace that closes it. -/

namespace ListingCrawl.Json

open Octets

variable {depth : Nat} {s r : Octets}

/-! ### One step of the scan -/

/-- The number of open braces after the octet `b`. -/
def Quoting.nest (q : Quoting) (b : UInt8) (depth : Nat) : Nat :=
  if q = .outside ∧ b = openBrace then depth + 1
  else if q = .outside ∧ b = closeBrace then depth - 1
  else depth

/-- The scan stops at the brace that closes the last open one, and goes on behind any other octet. -/
theorem closing?_step (q : Quoting) (depth : Nat) (b : UInt8) (s : Octets) :
    closing? q depth (b :: s) = if q = .outside ∧ b = closeBrace ∧ depth ≤ 1 then some 1
      else (closing? (q.next b) (q.nest b depth) s).map (· + 1) := by
  rw [closing?, Quoting.nest]
  by_cases hopen : q = .outside ∧ b = openBrace
  · obtain ⟨rfl, rfl⟩ := hopen
    rfl
  · rw [if_neg hopen, if_neg hopen]
    by_cases hclose : q = .outside ∧ b = closeBrace
    · obtain ⟨rfl, rfl⟩ := hclose
      simp only [true_and]
      rfl
    · rw [if_neg hclose, if_neg hclose, if_neg fun h => hclose ⟨h.1, h.2.1⟩]

theorem closing?_cons {b : UInt8} (hopen : b ≠ openBrace) (hclose : b ≠ closeBrace) (q : Quoting) :
    closing? q depth (b :: s) = (closing? (q.next b) depth s).map (· + 1) := by
  rw [closing?_step, if_neg fun h => hclose h.2.1, Quoting.nest, if_neg fun h => hopen h.2,
    if_neg fun h => hclose h.2]

theorem closing?_of_ne_outside {b : UInt8} {q : Quoting} (hq : q ≠ .outside) :
    closing? q depth (b :: s) = (closing? (q.next b) depth s).map (· + 1) := by
  rw [closing?_step, if_neg fun h => hq h.1, Quoting.nest, if_neg fun h => hq h.1,
    if_neg fun h => hq h.1]

theorem closing?_openBrace :
    closing? .outside depth (openBrace :: s) = (closing? .outside (depth + 1) s).map (· + 1) := rfl

theorem closing?_closeBrace : closing? .outside (depth + 2) (closeBrace :: s) =
    (closing? .outside (depth + 1) s).map (· + 1) := by
  rw [closing?_step, if_neg (by omega)]
  rfl

theorem closing?_last : closing? .outside 1 (closeBrace :: s) = some 1 := rfl

/-- What stands in a literal is passed over, braces and all. -/
theorem closing?_content {c : Octets} (hc : IsContent c) :
    closing? .inside depth (c ++ s) = (closing? .inside depth s).map (· + c.length) := by
  induction hc with
  | nil => simp
  | plain hb _ ih =>
    rw [List.cons_append, closing?_of_ne_outside (by decide), Quoting.next_inside hb.1 hb.2.1, ih,
      Option.map_map]
    rfl
  | escape _ ih =>
    rw [List.cons_append, List.cons_append, closing?_of_ne_outside (by decide)]
    have hescaped : Quoting.inside.next backslash = .escaped := rfl
    rw [hescaped, closing?_of_ne_outside (by decide)]
    have hinside : ∀ x, Quoting.escaped.next x = .inside := fun _ => rfl
    rw [hinside, ih, Option.map_map, Option.map_map]
    rfl

theorem closing?_literal {c : Octets} (hc : IsContent c) : closing? .inside depth (c ++ quote :: r) =
    (closing? .outside depth r).map (· + (c.length + 1)) := by
  have hclosed : Quoting.inside.next quote = .outside := rfl
  rw [closing?_content hc, closing?_of_ne_outside (by decide), hclosed, Option.map_map]
  congr 1
  funext n
  simp only [Function.comp_apply]
  omega

/-! ### Objects that are read -/

/-- With `n` objects open inside the one that `s` goes on with, the scan of what is left finds the brace that
the scan of `s` finds. -/
def ClosesAlike (s : Octets) (n : Nat) (t : Octets) : Prop :=
  ∃ passed, s = passed ++ t ∧
    closing? .outside 1 s = (closing? .outside (n + 1) t).map (· + passed.length)

theorem ClosesAlike.advance {n m : Nat} (c : Octets) {u : Octets} (h : ClosesAlike s n (c ++ u))
    (hscan : closing? .outside (n + 1) (c ++ u) = (closing? .outside (m + 1) u).map (· + c.length)) :
    ClosesAlike s m u := by
  obtain ⟨passed, hpassed, hs⟩ := h
  refine ⟨passed ++ c, by rw [hpassed, List.append_assoc], ?_⟩
  rw [hs, hscan, Option.map_map]
  congr 1
  funext k
  simp only [Function.comp_apply, List.length_append]
  omega

theorem ClosesAlike.step {n m : Nat} {b : UInt8} {u : Octets} (h : ClosesAlike s n (b :: u))
    (hscan : closing? .outside (n + 1) (b :: u) = (closing? .outside (m + 1) u).map (· + 1)) :
    ClosesAlike s m u :=
  ClosesAlike.advance [b] h hscan

theorem ClosesAlike.ordinary {n : Nat} {b : UInt8} {u : Octets} (hb : IsOrdinary b)
    (h : ClosesAlike s n (b :: u)) : ClosesAlike s n u :=
  h.step (by rw [closing?_cons hb.2.2.1 hb.2.2.2, Quoting.next_outside hb.1])

/-- Reading never loses track of the brace that closes the object. -/
theorem closesAlike_kept (s : Octets) :
    ReadInvariant (ClosesAlike s) (ClosesAlike s) fun _ => True where
  ordinary hb h := h.ordinary hb
  opens h := h.step closing?_openBrace
  behind := id
  punctuation hb h := h.ordinary hb.isOrdinary
  closes h := h.step closing?_closeBrace
  literal {n c r text} hc _ h := by
    have hsplit : quote :: (c ++ quote :: r) = quote :: (c ++ [quote]) ++ r := by simp
    refine ⟨trivial, ClosesAlike.advance (quote :: (c ++ [quote])) (hsplit ▸ h) ?_⟩
    have hopened : Quoting.outside.next quote = .inside := rfl
    rw [← hsplit, closing?_cons (by decide) (by decide), hopened, closing?_literal hc, Option.map_map,
      List.length_cons, List.length_append]
    rfl

/-- What is read of an object ends with the brace that closes it. -/
theorem closing?_of_readMembers {levels : Nat} {c : Octets} {ms : List (String × Json)}
    (h : readMembers (readValue levels) (c ++ r) = .ok (ms, r)) :
    closing? .outside 1 (c ++ r) = some c.length := by
  have inv := closesAlike_kept (c ++ r)
  have hstart : ClosesAlike (c ++ r) 0 (c ++ r) := ⟨[], rfl, by simp⟩
  obtain ⟨-, passed, hpassed, hscan⟩ :=
    inv.keeps_readMembers_closing (inv.keeps_readValue levels 0) _ _ _ h hstart
  have hlength : c.length = 1 + passed.length := by
    have := congrArg List.length hpassed
    simp only [List.length_append, List.length_cons] at this
    omega
  rw [hscan, closing?_last, Option.map_some, hlength]

/-- An object ends where the scan from its opening brace does. -/
theorem objectEnd?_of_openBrace {start : Nat} (h : s[start]? = some openBrace) :
    objectEnd? s start = (closing? .outside 1 (s.drop (start + 1))).map (start + 1 + ·) := by
  obtain ⟨hlt, hb⟩ := List.getElem?_eq_some_iff.mp h
  rw [objectEnd?, List.drop_eq_getElem_cons hlt, hb]
  dsimp only
  rw [if_pos rfl]

theorem objectEnd?_append (front s : Octets) : objectEnd? (front ++ openBrace :: s) front.length =
    (closing? .outside 1 s).map (front.length + 1 + ·) := by
  rw [objectEnd?_of_openBrace (by simp), ← List.drop_drop, List.drop_left, List.drop_one, List.tail_cons]

theorem objectEnd?_openBrace (s : Octets) :
    objectEnd? (openBrace :: s) 0 = (closing? .outside 1 s).map (1 + ·) :=
  objectEnd?_append [] s

/-- What is read behind a brace has members, and they are read alike whatever follows. -/
theorem readMembers_of_readValue {levels : Nat} {c behind : Octets} {v : Json}
    (h : readValue levels (openBrace :: (c ++ behind)) = .ok (v, behind)) : ∃ below ms,
      levels = below + 1 ∧ (∀ t, readMembers (readValue below) (c ++ t) = .ok (ms, t)) ∧
        ofMembers? ms = some v := by
  cases levels with
  | zero =>
    rw [readValue_eq] at h
    cases h
  | succ below =>
    rw [readValue_openBrace] at h
    obtain ⟨ms, hms, hv⟩ := readObject_eq_ok.mp h
    obtain ⟨c', -, hc, hclosed⟩ := closed_readMembers (local_readValue below) _ _ _ hms
    obtain rfl : c = c' := List.append_cancel_right hc
    exact ⟨below, ms, rfl, hclosed, hv⟩

/-! ### Raw control characters -/

theorem IsControlEscape.isContent {b : UInt8} {e : Octets} (h : IsControlEscape b e) : IsContent e := by
  cases h with
  | letter => exact .escape .nil
  | digits hhigh hlow =>
    have hzero : IsPlain 0x30 := isPlain_of_hexValue? (n := 0) rfl
    exact .escape (.plain hzero (.plain hzero (.plain (isPlain_of_hexValue? hhigh)
      (.plain (isPlain_of_hexValue? hlow) .nil))))

theorem escapeControlsFrom_eq_nil_iff {q : Quoting} : escapeControlsFrom q s = [] ↔ s = [] := by
  constructor
  · intro h
    cases s with
    | nil => rfl
    | cons b s =>
      rw [escapeControlsFrom] at h
      split at h
      · next hctl =>
        exact absurd (List.append_eq_nil_iff.mp h).1 (isControlEscape_controlEscape hctl.2).ne_nil
      · cases h
  · rintro rfl
    rfl

/-- Escaping control characters does not move the closing brace: if it is the last octet of the escaped text,
it is the last octet of the raw one, whatever follows this. -/
theorem closing?_of_escapeControlsFrom {q : Quoting} (after : Octets)
    (h : closing? q depth (escapeControlsFrom q s) = some (escapeControlsFrom q s).length) :
    closing? q depth (s ++ after) = some s.length := by
  induction s generalizing q depth with
  | nil => cases h
  | cons b s ih =>
    rw [escapeControlsFrom] at h
    split at h
    · next hctl =>
      obtain ⟨rfl, hb⟩ := hctl
      rw [closing?_content (isControlEscape_controlEscape hb).isContent, List.length_append,
        Option.map_eq_some_iff] at h
      obtain ⟨n, hn, hlength⟩ := h
      obtain rfl : n = (escapeControlsFrom .inside s).length := by omega
      rw [List.cons_append, closing?_of_ne_outside (by decide),
        Quoting.next_inside (ne_of_control hb (by decide)) (ne_of_control hb (by decide)), ih hn]
      rfl
    · -- the octet stays, and the scan takes the same step on both texts
      rw [closing?_step] at h
      rw [List.cons_append, closing?_step]
      split at h
      · next hend =>
        have hnil : escapeControlsFrom (q.next b) s = [] :=
          List.eq_nil_of_length_eq_zero (by simpa using h)
        rw [if_pos hend, escapeControlsFrom_eq_nil_iff.mp hnil]
        rfl
      · next hgo =>
        obtain ⟨n, hn, hlength⟩ := Option.map_eq_some_iff.mp h
        obtain rfl : n = (escapeControlsFrom (q.next b) s).length := by
          rw [List.length_cons] at hlength
          omega
        rw [if_neg hgo, ih hn]
        rfl

/-! ### Objects with raw control characters -/

/-- Outside of string literals nothing is undone. -/
theorem Unescapes.cons_outside {b : UInt8} {t u : Octets} (h : Unescapes .outside (b :: t) u) :
    ∃ u', u = b :: u' := by
  cases h with
  | keep h => exact ⟨_, rfl⟩

/-- Where an object stands in a text, also with some of its control characters raw, its end is found,
whatever stands around it. -/
theorem objectEnd?_unescaped {levels : Nat} {text raw behind : Octets} {v : Json}
    (hbrace : text.head? = some openBrace) (hread : readValue levels (text ++ behind) = .ok (v, behind))
    (hraw : Unescapes .outside text raw) (front after : Octets) :
    objectEnd? (front ++ raw ++ after) front.length = some (front.length + raw.length) := by
  obtain ⟨c, rfl⟩ := List.head?_eq_some_iff.mp hbrace
  obtain ⟨raw, rfl⟩ := hraw.cons_outside
  obtain ⟨below, ms, rfl, hms, hv⟩ := readMembers_of_readValue hread
  -- with the raw characters escaped there is the same object
  have halone : readValue (below + 1) (openBrace :: c) = .ok (v, []) := by
    rw [readValue_openBrace, ← List.append_nil c]
    exact readObject_eq_ok.mpr ⟨ms, hms [], hv⟩
  obtain ⟨r, hescaped, hr⟩ := indifferent_readValue _ _ _ _ _ hraw.respells halone
  rw [hr.eq_nil] at hescaped
  change readValue (below + 1) (openBrace :: escapeControlsFrom .outside raw) = _ at hescaped
  rw [← List.append_nil (escapeControlsFrom .outside raw)] at hescaped
  obtain ⟨below', ms', -, hms', -⟩ := readMembers_of_readValue hescaped
  have hend := closing?_of_readMembers (hms' [])
  rw [List.append_nil] at hend
  rw [List.append_assoc, List.cons_append, objectEnd?_append, closing?_of_escapeControlsFrom after hend,
    Option.map_some, List.length_cons, Nat.add_assoc, Nat.add_comm 1]

/-- The text is one object but for control characters that stand raw in its string literals. -/
def IsRawObjectText (text : String) (fields : Fields) : Prop :=
  ∃ strict, IsObjectText strict fields ∧ Unescapes .outside (ofText strict) (ofText text)

/-- With the raw characters escaped it is this object, with nothing behind it. -/
theorem IsRawObjectText.readValue_escapeControls {text : String} {fields : Fields}
    (h : IsRawObjectText text fields) :
    readValue maxLevels (escapeControls (ofText text)) = .ok (.object fields, []) := by
  obtain ⟨strict, hstrict, hraw⟩ := h
  have hread := readFirst?_object_iff.mp hstrict.2
  obtain ⟨r, hread', hr⟩ := indifferent_readValue maxLevels _ _ _ _ hraw.respells hread
  rw [escapeControls, hread', hr.eq_nil]

theorem IsRawObjectText.eq_openBrace {text : String} {fields : Fields} (h : IsRawObjectText text fields) :
    ∃ c, ofText text = openBrace :: c := by
  obtain ⟨strict, hstrict, hraw⟩ := h
  obtain ⟨cs, hcs⟩ := hstrict.eq_cons
  rw [ofText, hcs, ofChars_openBrace] at hraw
  exact hraw.cons_outside

/-- The object ends where its closing brace is found, whatever follows it. -/
theorem IsRawObjectText.objectEnd? {text : String} {fields : Fields} (h : IsRawObjectText text fields)
    {c : Octets} (hc : ofText text = openBrace :: c) (after : Octets) :
    objectEnd? (openBrace :: (c ++ after)) 0 = some (openBrace :: c).length := by
  obtain ⟨strict, hstrict, hraw⟩ := h
  obtain ⟨cs, hcs⟩ := hstrict.eq_cons
  have hbrace : (ofText strict).head? = some openBrace := by
    rw [ofText, hcs, ofChars_openBrace, List.head?_cons]
  have hread := readFirst?_object_iff.mp hstrict.2
  rw [← List.append_nil (ofText strict)] at hread
  have hend := objectEnd?_unescaped hbrace hread (hc ▸ hraw) [] after
  rwa [List.length_nil, Nat.zero_add] at hend

end ListingCrawl.Json
