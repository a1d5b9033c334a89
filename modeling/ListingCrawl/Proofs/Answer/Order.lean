import ListingCrawl.Proofs.Answer.Whole
import ListingCrawl.Proofs.Text.Cut

/-! The order in which a scan tries the braces of a text. The scan tracks string literals from the first brace
on, and it first tries the braces that it takes for structure, then those that it takes for parts of
literals, each in the order of the text. A stray brace and a quote in prose put it out of phase, and then a
later object may come before an earlier one. -/

namespace ListingCrawl.Answer

open Octets Text

/-! ### Where the scan stands -/

/-- One octet: the scan's place among the quotes, and how many braces it takes for open. -/
def advance : Json.Quoting × Nat → UInt8 → Json.Quoting × Nat
  | (.outside, depth), b =>
    if b = openBrace then (.outside, depth + 1)
    else if b = closeBrace then (.outside, depth - 1)
    else if b = quote ∧ depth = 0 then (.outside, depth)
    else (Json.Quoting.outside.next b, depth)
  | (q, depth), b => (q.next b, depth)

/-- Where the scan stands behind a text. -/
def placeAfter (s : Octets) : Json.Quoting × Nat :=
  s.foldl advance (.outside, 0)

/-- The scan takes what follows this text for structure. -/
def InPhase (before : List Char) : Prop :=
  (placeAfter (ofChars before)).1 = .outside

instance (before : List Char) : Decidable (InPhase before) :=
  inferInstanceAs (Decidable (_ = _))

/-- A brace is marked by where the scan stands before it. -/
theorem braces_advance (p : Json.Quoting × Nat) (b : UInt8) (s : Octets) : braces p.1 p.2 (b :: s) =
    (if b = openBrace then [(decide (p.1 = .outside), b :: s)] else []) ++
      braces (advance p b).1 (advance p b).2 s := by
  obtain ⟨q, depth⟩ := p
  cases q with
  | outside =>
    simp only [braces, advance]
    split_ifs <;> rfl
  | inside =>
    simp only [braces, advance]
    split_ifs <;> rfl
  | escaped =>
    simp only [braces, advance]
    split_ifs <;> rfl

theorem braces_append (p : Json.Quoting × Nat) (s t : Octets) : braces p.1 p.2 (s ++ t) =
    (braces p.1 p.2 s).map (fun m => (m.1, m.2 ++ t)) ++
      braces (s.foldl advance p).1 (s.foldl advance p).2 t := by
  induction s generalizing p with
  | nil => rfl
  | cons b s ih =>
    rw [List.cons_append, braces_advance, braces_advance, ih, List.map_append, List.append_assoc,
      List.foldl_cons]
    congr 1
    split_ifs <;> rfl

/-- The marked braces of a text with the places where they stand. -/
theorem eq_append_of_mem_braces {p : Json.Quoting × Nat} {s t : Octets} {mark : Bool}
    (h : (mark, t) ∈ braces p.1 p.2 s) : ∃ front r, s = front ++ t ∧ t = openBrace :: r ∧
      decide ((front.foldl advance p).1 = .outside) = mark := by
  induction s generalizing p with
  | nil => cases h
  | cons b s ih =>
    rw [braces_advance, List.mem_append] at h
    obtain h | h := h
    · split at h
      · next hb =>
        obtain ⟨rfl, rfl⟩ := Prod.mk.inj (List.mem_singleton.mp h)
        exact ⟨[], s, rfl, by rw [hb], rfl⟩
      · cases h
    · obtain ⟨front, r, rfl, ht, hmark⟩ := ih h
      exact ⟨b :: front, r, rfl, ht, hmark⟩

/-! ### The first accepted object -/

/-- The object that starts at a brace with `after` behind it, if it is accepted. -/
def acceptedAt? (accept : Fields → Bool) (after : List Char) : Option Fields :=
  (objectAt? (ofChars ('{' :: after))).filter accept

/-- Of the braces in `before` that bear the mark none starts an accepted object, where `after` follows. -/
def Passes (accept : Fields → Bool) (mark : Bool) (before after : List Char) : Prop :=
  ∀ front behind, before = front ++ '{' :: behind → decide (InPhase front) = mark →
    acceptedAt? accept (behind ++ after) = none

/-- The first object that is accepted at a brace with the mark. -/
def firstMarked? (accept : Fields → Bool) (mark : Bool) (q : Json.Quoting) (depth : Nat) (s : Octets) :
    Option Fields :=
  (braces q depth s).findSome? fun m => if m.1 = mark then (objectAt? m.2).filter accept else none

theorem findSome?_map_filter {α β : Type} (f : α → Option β) (P : Bool × α → Bool)
    (l : List (Bool × α)) : ((l.filter P).map (·.2)).findSome? f =
      l.findSome? fun m => if P m = true then f m.2 else none := by
  induction l with
  | nil => rfl
  | cons m l ih =>
    by_cases hm : P m = true
    · rw [List.filter_cons_of_pos hm, List.map_cons, List.findSome?_cons, List.findSome?_cons, ih,
        if_pos hm]
    · rw [List.filter_cons_of_neg hm, List.findSome?_cons, if_neg hm, ih]

/-- Braces outside literals go before the others. -/
theorem scanObjects_eq (accept : Fields → Bool) (text : List Char) : scanObjects accept text =
    (firstMarked? accept true .outside 0 (ofChars text)).or
      (firstMarked? accept false .outside 0 (ofChars text)) := by
  simp only [scanObjects, candidates, List.map_append, List.findSome?_append, findSome?_map_filter,
    firstMarked?, Bool.not_eq_true']

/-- The marked braces of a text of characters. -/
theorem exists_of_mem_braces {text : List Char} {mark : Bool} {t : Octets}
    (h : (mark, t) ∈ braces .outside 0 (ofChars text)) : ∃ front behind,
      text = front ++ '{' :: behind ∧ t = ofChars ('{' :: behind) ∧ decide (InPhase front) = mark := by
  obtain ⟨frontOctets, r, htext, rfl, hmark⟩ := eq_append_of_mem_braces (p := (.outside, 0)) h
  obtain ⟨behind, ⟨front, rfl⟩, hr⟩ := suffix_openBrace_iff.mp (htext ▸ List.suffix_append _ _)
  have hfront : frontOctets = ofChars front := by
    rw [ofChars_append, ← hr] at htext
    exact (List.append_cancel_right htext).symm
  exact ⟨front, behind, rfl, hr, by rw [← hmark, hfront]; rfl⟩

theorem firstMarked?_eq_none {accept : Fields → Bool} {mark : Bool} {text : List Char}
    (h : Passes accept mark text []) : firstMarked? accept mark .outside 0 (ofChars text) = none := by
  rw [firstMarked?, List.findSome?_eq_none_iff]
  rintro ⟨m, t⟩ ht
  obtain ⟨front, behind, rfl, rfl, hm⟩ := exists_of_mem_braces ht
  split
  · next heq =>
    have hnone := h front behind rfl (hm.trans heq)
    rwa [List.append_nil] at hnone
  · rfl

/-- The first brace that is not passed over decides. -/
theorem firstMarked?_eq {accept : Fields → Bool} {mark : Bool} {before after : List Char}
    (hpass : Passes accept mark before ('{' :: after)) (hmark : decide (InPhase before) = mark)
    {fields : Fields} (h : acceptedAt? accept after = some fields) :
    firstMarked? accept mark .outside 0 (ofChars (before ++ '{' :: after)) = some fields := by
  have hfront : ((braces .outside 0 (ofChars before)).map fun m =>
      (m.1, m.2 ++ ofChars ('{' :: after))).findSome? (fun m =>
        if m.1 = mark then (objectAt? m.2).filter accept else none) = none := by
    rw [List.findSome?_eq_none_iff]
    intro m hm
    obtain ⟨⟨n, t⟩, ht, rfl⟩ := List.mem_map.mp hm
    obtain ⟨front, behind, rfl, rfl, hn⟩ := exists_of_mem_braces ht
    dsimp only
    split
    · next heq =>
      rw [← ofChars_append]
      exact hpass front behind rfl (hn.trans heq)
    · rfl
  have hplace : decide ((placeAfter (ofChars before)).1 = .outside) = mark := hmark
  rw [acceptedAt?, ofChars_openBrace] at h
  rw [firstMarked?, ofChars_append, braces_append (.outside, 0), List.findSome?_append, hfront,
    Option.none_or, ofChars_openBrace, braces_advance, if_pos rfl, List.singleton_append,
    List.findSome?_cons]
  rw [placeAfter] at hplace
  rw [if_pos hplace, h]

/-- An accepted object at a brace in phase is found, if no accepted one starts at such a brace before it. -/
theorem scanObjects_inPhase {accept : Fields → Bool} {before after : List Char} {fields : Fields}
    (hbefore : InPhase before) (hpass : Passes accept true before ('{' :: after))
    (h : acceptedAt? accept after = some fields) :
    scanObjects accept (before ++ '{' :: after) = some fields := by
  rw [scanObjects_eq, firstMarked?_eq hpass (decide_eq_true hbefore) h, Option.some_or]

/-- One at a brace out of phase is found, if none starts at a brace in phase. -/
theorem scanObjects_outOfPhase {accept : Fields → Bool} {before after : List Char} {fields : Fields}
    (hnone : Passes accept true (before ++ '{' :: after) []) (hbefore : ¬InPhase before)
    (hpass : Passes accept false before ('{' :: after)) (h : acceptedAt? accept after = some fields) :
    scanObjects accept (before ++ '{' :: after) = some fields := by
  rw [scanObjects_eq, firstMarked?_eq_none hnone, Option.none_or,
    firstMarked?_eq hpass (decide_eq_false hbefore) h]

/-! ### Text without braces -/

theorem foldl_advance_of_not_mem {s : Octets} (h : openBrace ∉ s) :
    s.foldl advance (.outside, 0) = (.outside, 0) := by
  induction s with
  | nil => rfl
  | cons b s ih =>
    rw [List.mem_cons, not_or] at h
    have hstep : advance (.outside, 0) b = (.outside, 0) := by
      simp only [advance, if_neg (Ne.symm h.1), Nat.zero_sub, and_true, Json.Quoting.next]
      split_ifs <;> rfl
    rw [List.foldl_cons, hstep, ih h.2]

theorem openBrace_not_mem {cs : List Char} (h : '{' ∉ cs) : openBrace ∉ ofChars cs := by
  intro hmem
  obtain ⟨front, r, hr⟩ := List.append_of_mem hmem
  obtain ⟨after, hafter, -⟩ := suffix_openBrace_iff.mp (hr ▸ List.suffix_append front (openBrace :: r))
  exact h (hafter.subset List.mem_cons_self)

/-- Before the first brace quotes are prose. -/
theorem inPhase_of_not_mem {before : List Char} (h : '{' ∉ before) : InPhase before := by
  rw [InPhase, placeAfter, foldl_advance_of_not_mem (openBrace_not_mem h)]

theorem passes_of_not_mem {before : List Char} (h : '{' ∉ before) (accept : Fields → Bool)
    (mark : Bool) (after : List Char) : Passes accept mark before after := by
  rintro front behind rfl
  simp at h

theorem openBrace_not_mem_blanks {cs : List Char} (h : ∀ c ∈ cs, isBlank c = true) : '{' ∉ cs := by
  intro hmem
  have hb := h _ hmem
  revert hb
  decide

/-- Blanks at the front do not move the scan. -/
theorem inPhase_dropWhile_iff (before : List Char) :
    InPhase (before.dropWhile isBlank) ↔ InPhase before := by
  have hblank : ∀ c ∈ before.takeWhile isBlank, isBlank c = true :=
    List.all_eq_true.mp List.all_takeWhile
  have hplace : placeAfter (ofChars before) = placeAfter (ofChars (before.dropWhile isBlank)) := by
    conv_lhs => rw [← List.takeWhile_append_dropWhile (p := isBlank) (l := before), placeAfter,
      ofChars_append, List.foldl_append,
      foldl_advance_of_not_mem (openBrace_not_mem (openBrace_not_mem_blanks hblank))]
    rfl
  rw [InPhase, InPhase, hplace]

/-! ### Objects in a longer text -/

variable {o : String} {fields : Fields}

theorem acceptedAt?_objectText {accept : Fields → Bool} (h : Json.IsObjectText o fields)
    (ha : accept fields = true) {cs : List Char} (hcs : o.toList = '{' :: cs) (post : List Char) :
    acceptedAt? accept (cs ++ post) = some fields := by
  have hat := objectAt?_of_isObjectText h
  rw [ofText, hcs, ofChars_openBrace] at hat
  rw [acceptedAt?, ofChars_openBrace, ofChars_append, objectAt?_append hat,
    Option.filter_some_pos ha]

/-- What is trimmed around an object text stands outside of it. -/
theorem trimChars_objectText (h : Json.IsObjectText o fields) (pre post : List Char) :
    trimChars (pre ++ o.toList ++ post) =
      pre.dropWhile isBlank ++ o.toList ++ post.rdropWhile isBlank := by
  obtain ⟨cs, hcs⟩ := h.eq_cons
  exact trimChars_append (hcs ▸ List.cons_ne_nil _ _) h.noBlankEnds pre post

/-- Without a fence the answer as a whole is searched. -/
theorem findObject?_unfenced {raw : String} (h : ¬fence <:+: raw.toList)
    (accept : Fields → Bool) : findObject? accept raw = scanObjects accept (trimChars raw.toList) := by
  have hnone : fenceBody? (trimChars raw.toList) = none := by
    rw [fenceBody?, cutAt?_eq_none fun hi => h (hi.trans (trimChars_part _))]
    rfl
  rw [findObject?_eq, hnone, Option.bind_none, Option.none_or]

/-! ### The first answer -/

/-- No brace of `part` starts an object, where `rest` follows. -/
def NoObject (part rest : List Char) : Prop :=
  ∀ t ∈ part.tails, t.head? = some '{' → objectAt? (ofChars (t ++ rest)) = none

instance (part rest : List Char) : Decidable (NoObject part rest) :=
  inferInstanceAs (Decidable (∀ _ ∈ _, _ → _))

theorem NoObject.passes {part rest : List Char} (h : NoObject part rest) {part' rest' : List Char}
    (hpart : part' <:+ part) (hrest : rest' <+: rest) (accept : Fields → Bool) (mark : Bool) :
    Passes accept mark part' rest' := by
  rintro front behind rfl -
  have hmem : '{' :: behind ∈ part.tails :=
    (List.mem_tails _ _).mpr ((List.suffix_append front _).trans hpart)
  have hnone := h _ hmem rfl
  obtain ⟨more, rfl⟩ := hrest
  rw [acceptedAt?]
  cases hat : objectAt? (ofChars ('{' :: (behind ++ rest'))) with
  | none => rfl
  | some found =>
    rw [ofChars_openBrace] at hat
    rw [List.cons_append, ← List.append_assoc, ofChars_openBrace, ofChars_append,
      objectAt?_append hat] at hnone
    cases hnone

/-- Of the objects with a status whose braces the scan takes for structure this is the first. -/
def FirstInPhase (text : List Char) (fields : Fields) : Prop :=
  ∃ before after, text = before ++ '{' :: after ∧ InPhase before ∧
    acceptedAt? hasStatus after = some fields ∧ Passes hasStatus true before ('{' :: after)

theorem FirstInPhase.scanObjects {text : List Char} (h : FirstInPhase text fields) :
    scanObjects hasStatus text = some fields := by
  obtain ⟨before, after, rfl, hphase, hat, hpass⟩ := h
  exact scanObjects_inPhase hphase hpass hat

/-- If there is no first one there is none. -/
theorem passes_of_not_firstInPhase {text : List Char} (h : ∀ found, ¬FirstInPhase text found) :
    Passes hasStatus true text [] := by
  intro front behind htext hmark
  rw [List.append_nil]
  induction hn : front.length using Nat.strong_induction_on generalizing front behind with
  | _ n ih =>
    cases hat : acceptedAt? hasStatus behind with
    | none => rfl
    | some found =>
      refine absurd ⟨front, behind, htext, of_decide_eq_true hmark, hat, ?_⟩ (h found)
      rintro front' behind' rfl hmark'
      refine ih front'.length ?_ front' (behind' ++ '{' :: behind) ?_ hmark' rfl
      · rw [← hn, List.length_append, List.length_cons]
        omega
      · rw [htext, List.append_assoc, List.cons_append]

/-- The first object of an answer without fences is the one taken, if it has a status and the scan takes its
brace for structure, or if it takes no brace of an object with a status for structure. Otherwise the first of
those is taken, which stands behind it. -/
theorem first_status_found {pre o rest : String} {fields : Fields} (h : Json.IsObjectText o fields)
    (hstatus : HasStatus fields) (hfence : ¬fence <:+: (pre ++ o ++ rest).toList)
    (hpre : NoObject pre.toList (o ++ rest).toList) :
    (InPhase pre.toList ∨ (∀ found, ¬FirstInPhase (trim (pre ++ o ++ rest)).toList found) →
      statusObject (pre ++ o ++ rest) = .ok fields) ∧
    ∀ found, FirstInPhase (trim (pre ++ o ++ rest)).toList found →
      statusObject (pre ++ o ++ rest) = .ok found := by
  rw [← hasStatus_iff] at hstatus
  obtain ⟨cs, hcs⟩ := h.eq_cons
  have htext : (trim (pre ++ o ++ rest)).toList = pre.toList.dropWhile isBlank ++
      '{' :: (cs ++ rest.toList.rdropWhile isBlank) := by
    rw [toList_trim, String.toList_append, String.toList_append, trimChars_objectText h, hcs,
      List.append_assoc, List.cons_append]
  have hpass : ∀ mark, Passes hasStatus mark (pre.toList.dropWhile isBlank)
      ('{' :: (cs ++ rest.toList.rdropWhile isBlank)) := by
    intro mark
    refine hpre.passes (List.dropWhile_suffix isBlank) ?_ hasStatus mark
    rw [String.toList_append, hcs, List.cons_append]
    exact (List.prefix_append_right_inj ('{' :: cs)).mpr (List.rdropWhile_prefix isBlank rest.toList)
  have hat := acceptedAt?_objectText h hstatus hcs (rest.toList.rdropWhile isBlank)
  simp only [statusObject_eq_ok, findObject?_unfenced hfence, ← toList_trim]
  refine ⟨fun hwhen => ?_, fun found hfound => hfound.scanObjects⟩
  rw [htext] at hwhen ⊢
  rw [← inPhase_dropWhile_iff] at hwhen
  by_cases hphase : InPhase (pre.toList.dropWhile isBlank)
  · exact scanObjects_inPhase hphase (hpass true) hat
  · obtain hin | hnone := hwhen
    · exact absurd hin hphase
    · exact scanObjects_outOfPhase (passes_of_not_firstInPhase hnone) hphase (hpass false) hat

/-- Prose with a stray brace and a quote behind it. -/
def strayProse : String :=
  "Progress \x7b50%, 12\" screen\x7d "

/-- An object out of phase is found if the one behind it is out of phase too. -/
theorem first_status_found_outOfPhase :
    ¬InPhase strayProse.toList ∧
    statusObject (strayProse ++ "\x7b\"status\":\"ok\"\x7d" ++ " and \x7b\"status\":\"error\"\x7d") =
      .ok [("status", .string "ok")] := by
  refine ⟨by decide +kernel, (first_status_found ⟨rfl, by decide +kernel⟩ ⟨"ok", rfl, by decide +kernel⟩
    (by decide +kernel) (by decide +kernel)).1 (.inr fun found hfound => ?_)⟩
  have hscan : firstMarked? hasStatus true .outside 0 (ofText (trim (strayProse ++
      "\x7b\"status\":\"ok\"\x7d" ++ " and \x7b\"status\":\"error\"\x7d"))) = none := by
    decide +kernel
  obtain ⟨before, after, htext, hphase, hat, hpass⟩ := hfound
  rw [ofText, htext, firstMarked?_eq hpass (decide_eq_true hphase) hat] at hscan
  cases hscan

/-- With a lone quote before each of two answers the second is taken: before it the scan is in phase again. -/
theorem first_status_lost :
    Json.IsObjectText "\x7b\"status\":\"ok\"\x7d" [("status", .string "ok")] ∧
    Json.IsObjectText "\x7b\"status\":\"error\"\x7d" [("status", .string "error")] ∧
    HasStatus [("status", .string "ok")] ∧ HasStatus [("status", .string "error")] ∧
    ¬fence <:+: (strayProse ++ "\x7b\"status\":\"ok\"\x7d" ++ " and 13\" screen " ++
      "\x7b\"status\":\"error\"\x7d" ++ "").toList ∧
    NoObject strayProse.toList ("\x7b\"status\":\"ok\"\x7d" ++ " and 13\" screen " ++
      "\x7b\"status\":\"error\"\x7d" ++ "").toList ∧
    NoObject " and 13\" screen ".toList ("\x7b\"status\":\"error\"\x7d" ++ "").toList ∧
    NoObject "".toList [] ∧
    statusObject (strayProse ++ "\x7b\"status\":\"ok\"\x7d" ++ " and 13\" screen " ++
      "\x7b\"status\":\"error\"\x7d" ++ "") = .ok [("status", .string "error")] := by
  refine ⟨⟨rfl, by decide +kernel⟩, ⟨rfl, by decide +kernel⟩, ⟨"ok", rfl, by decide +kernel⟩,
    ⟨"error", rfl, by decide +kernel⟩, ?_, ?_, ?_, ?_, ?_⟩
  · decide +kernel
  · decide +kernel
  · decide +kernel
  · decide +kernel
  · decide +kernel

end ListingCrawl.Answer
