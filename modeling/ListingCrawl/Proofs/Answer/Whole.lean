import ListingCrawl.Proofs.Answer.Search

/-! Answers that are one object as a whole. The whole text is the first candidate of a scan, so a scan finds
the object at once, whatever its strings and the objects nested in it hold. But a fenced block is searched
first, and three backticks count as a fence also inside string literals: an object between two such
literals is taken in place of the whole. The answer is found unchanged exactly if there is no such object. -/

namespace ListingCrawl.Answer

open Octets Text

/-- The object starts in the first fenced block of the answer. -/
def InFence (raw : String) (fields : Fields) : Prop :=
  ∃ body, fenceBody? (trim raw).toList = some body ∧ ObjectStarts body fields

/-! ### The scan of a whole object -/

/-- A text that starts with a brace is its own first candidate. -/
theorem candidates_openBrace (r : Octets) :
    ∃ rest, candidates (openBrace :: r) = (openBrace :: r) :: rest := by
  have hb : braces .outside 0 (openBrace :: r) = (true, openBrace :: r) :: braces .outside 1 r := by
    simp only [braces, ↓reduceIte]
  rw [candidates, hb, List.filter_cons_of_pos rfl, List.cons_append, List.map_cons]
  exact ⟨_, rfl⟩

theorem scanObjects_whole {accept : Fields → Bool} {cs : List Char} {fields : Fields}
    (h : objectAt? (ofChars ('{' :: cs)) = some fields) (ha : accept fields = true) :
    scanObjects accept ('{' :: cs) = some fields := by
  rw [ofChars_openBrace] at h
  obtain ⟨rest, hrest⟩ := candidates_openBrace (ofChars cs)
  have hfirst : (objectAt? (openBrace :: ofChars cs)).filter accept = some fields := by
    rw [h, Option.filter_some_pos ha]
  rw [scanObjects, ofChars_openBrace, hrest, List.findSome?_cons, hfirst]

theorem objectAt?_of_isObjectText {s : String} {fields : Fields} (h : Json.IsObjectText s fields) :
    objectAt? (ofText s) = some fields := by
  rw [objectAt?, h.2]

/-! ### Fenced blocks -/

theorem fenced_isSome_iff {accept : Fields → Bool} {raw : String} :
    ((fenceBody? (trimChars raw.toList)).bind (scanObjects accept)).isSome = true ↔
      ∃ inner, InFence raw inner ∧ accept inner = true := by
  rw [← toList_trim]
  constructor
  · intro h
    obtain ⟨inner, h⟩ := Option.isSome_iff_exists.mp h
    obtain ⟨body, hbody, hscan⟩ := Option.bind_eq_some_iff.mp h
    obtain ⟨hstart, ha⟩ := scanObjects_sound hscan
    exact ⟨inner, ⟨body, hbody, hstart⟩, ha⟩
  · rintro ⟨inner, ⟨body, hbody, hstart⟩, ha⟩
    rw [hbody, Option.bind_some]
    exact scanObjects_isSome hstart ha

/-- What is found in the fenced block goes before all else. -/
theorem findObject?_of_inFence {accept : Fields → Bool} {raw : String} {inner : Fields}
    (h : InFence raw inner) (ha : accept inner = true) :
    ∃ found, InFence raw found ∧ accept found = true ∧ findObject? accept raw = some found := by
  obtain ⟨found, hfound⟩ := Option.isSome_iff_exists.mp (fenced_isSome_iff.mpr ⟨inner, h, ha⟩)
  obtain ⟨body, hbody, hscan⟩ := Option.bind_eq_some_iff.mp hfound
  obtain ⟨hstart, hfa⟩ := scanObjects_sound hscan
  refine ⟨found, ⟨body, by rw [toList_trim, hbody], hstart⟩, hfa, ?_⟩
  rw [findObject?_eq, hfound, Option.some_or]

/-- Where the fenced block holds nothing to accept, the whole object is found. -/
theorem findObject?_whole {accept : Fields → Bool} {raw : String} {fields : Fields}
    (h : Json.IsObjectText (trim raw) fields) (ha : accept fields = true)
    (hfence : ∀ inner, InFence raw inner → ¬ accept inner = true) :
    findObject? accept raw = some fields := by
  have hnone : (fenceBody? (trimChars raw.toList)).bind (scanObjects accept) = none := by
    rw [← Option.not_isSome_iff_eq_none, fenced_isSome_iff]
    rintro ⟨inner, hinner, hia⟩
    exact hfence inner hinner hia
  obtain ⟨cs, hcs⟩ := h.eq_cons
  have hat := objectAt?_of_isObjectText h
  rw [ofText, hcs] at hat
  rw [findObject?_eq, hnone, Option.none_or, ← toList_trim, hcs, scanObjects_whole hat ha]

/-! ### The whole answer -/

/-- An answer that is one object gives this object, unless one starts in its fenced block; then it gives
one of those. The same holds for objects with a status. -/
theorem whole_object_found {raw : String} {fields : Fields}
    (h : Json.readDocument (ofText (trim raw)) = .ok (.object fields)) :
    ((∀ inner, ¬ InFence raw inner) → firstObject raw = .ok fields) ∧
    ((∃ inner, InFence raw inner) → ∃ inner, InFence raw inner ∧ firstObject raw = .ok inner) ∧
    ((∀ inner, InFence raw inner → ¬ HasStatus inner) → HasStatus fields →
      statusObject raw = .ok fields) ∧
    ((∃ inner, InFence raw inner ∧ HasStatus inner) →
      ∃ inner, InFence raw inner ∧ HasStatus inner ∧ statusObject raw = .ok inner) := by
  have hobject : Json.IsObjectText (trim raw) fields := by
    refine Json.isObjectText_of_readDocument ?_ h
    rw [toList_trim]
    exact noBlankEnds_trimChars raw.toList
  simp only [firstObject_eq_ok, statusObject_eq_ok, ← hasStatus_iff]
  refine ⟨fun hfence => ?_, ?_, fun hfence hstatus => ?_, ?_⟩
  · exact findObject?_whole hobject rfl fun inner hinner _ => hfence inner hinner
  · rintro ⟨inner, hinner⟩
    obtain ⟨found, hfound, -, hfind⟩ : ∃ found, InFence raw found ∧ true = true ∧
        findObject? (fun _ => true) raw = some found := findObject?_of_inFence hinner rfl
    exact ⟨found, hfound, hfind⟩
  · exact findObject?_whole hobject hstatus hfence
  · rintro ⟨inner, hinner, hstatus⟩
    exact findObject?_of_inFence hinner hstatus

/-- Fences in two string literals with no brace between them do no harm. -/
theorem whole_object_found_quotedFences :
    firstObject "\x7b\"status\":\"ok\",\"a\":\"```\",\n\"b\":\"```\"\x7d" =
      .ok [("status", .string "ok"), ("a", .string "```"), ("b", .string "```")] ∧
    statusObject "\x7b\"status\":\"ok\",\"a\":\"```\",\n\"b\":\"```\"\x7d" =
      .ok [("status", .string "ok"), ("a", .string "```"), ("b", .string "```")] := by
  have hread : Json.readDocument
      (ofText (trim "\x7b\"status\":\"ok\",\"a\":\"```\",\n\"b\":\"```\"\x7d")) = .ok (.object
        [("status", .string "ok"), ("a", .string "```"), ("b", .string "```")]) := by
    decide +kernel
  have hfence : fenceBody? (trim "\x7b\"status\":\"ok\",\"a\":\"```\",\n\"b\":\"```\"\x7d").toList =
      some "\"b\":\"".toList := by
    decide +kernel
  have hnone : ∀ inner,
      ¬ InFence "\x7b\"status\":\"ok\",\"a\":\"```\",\n\"b\":\"```\"\x7d" inner := by
    rintro inner ⟨body, hbody, after, hafter, -⟩
    rw [hfence] at hbody
    cases hbody
    have hmem : '{' ∈ "\"b\":\"".toList := hafter.subset List.mem_cons_self
    revert hmem
    decide
  obtain ⟨hfirst, -, hstatus, -⟩ := whole_object_found hread
  exact ⟨hfirst hnone, hstatus (fun inner hinner _ => hnone inner hinner) ⟨"ok", rfl, by decide⟩⟩

/-- One object whose text has a fence in each of two string literals and a brace between them. -/
def fencedApart : String :=
  "\x7b\"status\":\"ok\",\"note\":\"```\",\n\"inner\":\x7b\"status\":\"error\"\x7d,\n\"end\":\"```\"\x7d"

/-- The whole object is not found, but the one between the fences. -/
theorem whole_object_lost :
    Json.readDocument (ofText (trim fencedApart)) = .ok (.object [("status", .string "ok"),
      ("note", .string "```"), ("inner", .object [("status", .string "error")]),
      ("end", .string "```")]) ∧
    firstObject fencedApart = .ok [("status", .string "error")] ∧
    statusObject fencedApart = .ok [("status", .string "error")] := by
  refine ⟨?_, ?_, ?_⟩
  · decide +kernel
  · decide +kernel
  · decide +kernel

end ListingCrawl.Answer
