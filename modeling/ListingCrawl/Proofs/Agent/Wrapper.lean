import ListingCrawl.Agent.Gemini
import ListingCrawl.Proofs.Answer.Whole
import ListingCrawl.Proofs.Json.RoundTrip

/-! Answers in a wrapper. An object in the wrapper is handed on in its compact form, which is read again as
this object: it stands on one line, so that no backticks in it can be taken for a fence. A text in the
wrapper is handed on trimmed, and nothing that is asked about an answer depends on the blanks around it. -/

namespace ListingCrawl

open Octets Text

/-! ### Compact forms stand on one line -/

namespace Json

theorem newline_not_mem_escapedChar (c : Char) : '\n' ∉ escapedChar c := by
  have hdigit : ∀ n < 16, Nat.digitChar n ≠ '\n' := by decide
  unfold escapedChar
  split_ifs with _ _ _ _ hline _ _ hlow
  · decide
  · decide
  · decide
  · decide
  · decide
  · decide
  · decide
  · have hhigh := hdigit (c.toNat / 16) (by omega)
    have hrest := hdigit (c.toNat % 16) (by omega)
    simp [hhigh.symm, hrest.symm]
  · simpa using Ne.symm hline

theorem newline_not_mem_stringChars (s : String) : '\n' ∉ stringChars s := by
  simp [stringChars, newline_not_mem_escapedChar]

theorem newline_not_mem_token {token : String} (h : IsToken token) : '\n' ∉ token.toList := by
  obtain ⟨n, rfl⟩ := h
  rw [Numeral.token, String.toList_ofList, List.mem_map]
  rintro ⟨b, hb, hline⟩
  have hnoted := Numeral.isNoted_of_mem_octets hb
  have hb' : b.toNat = 0x0a := by
    have h := congrArg Char.toNat hline
    rw [Char.ofNat, dif_pos (by left; have := hnoted.2; omega)] at h
    exact h
  have := hnoted.1
  omega

theorem newline_not_mem_compactItems {items : List Json}
    (h : ∀ v ∈ items, '\n' ∉ compactChars v) : '\n' ∉ compactItems items := by
  induction items with
  | nil => simp [compactItems]
  | cons v vs ih =>
    obtain ⟨hv, hvs⟩ := List.forall_mem_cons.mp h
    cases vs with
    | nil => simpa [compactItems] using hv
    | cons w ws => simp [compactItems, hv, ih hvs]

theorem newline_not_mem_compactMembers {fields : Fields}
    (h : ∀ e ∈ fields, '\n' ∉ compactChars e.2) : '\n' ∉ compactMembers fields := by
  induction fields with
  | nil => simp [compactMembers]
  | cons m ms ih =>
    obtain ⟨hm, hms⟩ := List.forall_mem_cons.mp h
    cases ms with
    | nil => simp [compactMembers, newline_not_mem_stringChars, hm]
    | cons n ns => simp [compactMembers, newline_not_mem_stringChars, hm, ih hms]

theorem newline_not_mem_compactChars {levels : Nat} {v : Json} (h : AsRead levels v) :
    '\n' ∉ compactChars v := by
  induction h with
  | null => simp [compactChars]
  | bool _ b => cases b <;> simp [compactChars]
  | number _ hn => simpa [compactChars] using newline_not_mem_token hn
  | string _ text => simpa [compactChars] using newline_not_mem_stringChars text
  | array _ ih => simpa [compactChars] using newline_not_mem_compactItems ih
  | object _ _ ih => simpa [compactChars] using newline_not_mem_compactMembers ih

/-- The compact form of a plain object is an object text. -/
theorem isObjectText_compact {fields : Fields} (h : AsRead maxLevels (.object fields))
    (hplain : Plain (.object fields)) :
    IsObjectText (trim (compact (.object fields))) fields ∧
      trim (compact (.object fields)) = compact (.object fields) := by
  have hends : NoBlankEnds (compact (.object fields)).toList := by
    rw [compact, String.toList_ofList, compactChars]
    constructor
    · intro c hc
      rw [List.cons_append, List.head?_cons, Option.mem_some_iff] at hc
      rw [← hc]
      decide
    · intro c hc
      rw [List.getLast?_concat, Option.mem_some_iff] at hc
      rw [← hc]
      decide
  have hnone : IsSpaces [] := by simp [IsSpaces]
  have hread := readDocument_compact h hplain hnone
  rw [List.append_nil] at hread
  rw [trim_eq_self hends]
  exact ⟨isObjectText_of_readDocument hends hread, rfl⟩

end Json

/-! ### Fences need a line to open -/

namespace Answer

/-- A text on one line has no fenced block. -/
theorem fenceBody?_eq_none {text : List Char} (h : '\n' ∉ text) : fenceBody? text = none := by
  rw [Option.eq_none_iff_forall_ne_some]
  intro body hbody
  simp only [fenceBody?, Option.bind_eq_bind, Option.bind_eq_some_iff] at hbody
  obtain ⟨⟨front, opened⟩, hopen, ⟨line, rest⟩, hline, -⟩ := hbody
  have hopened : opened = line ++ ['\n'] ++ rest := cutAt?_eq hline
  apply h
  rw [cutAt?_eq hopen, hopened]
  simp

/-- A whole object on one line is found as it is. -/
theorem findObject?_oneLine {accept : Fields → Bool} {raw : String} {fields : Fields}
    (h : Json.IsObjectText (trim raw) fields) (hline : '\n' ∉ (trim raw).toList)
    (ha : accept fields = true) : findObject? accept raw = some fields := by
  refine findObject?_whole h ha ?_
  rintro inner ⟨body, hbody, -⟩
  rw [fenceBody?_eq_none hline] at hbody
  cases hbody

/-! ### Blanks around an answer -/

theorem findObject?_trim (accept : Fields → Bool) (raw : String) :
    findObject? accept (trim raw) = findObject? accept raw := by
  simp only [findObject?, ← toList_trim, trim_trim]

theorem diagnose_trim (raw : String) : diagnose (trim raw) = diagnose raw := by
  simp only [diagnose, ← toList_trim, trim_trim]

theorem looksTruncated_trim (raw : String) : looksTruncated (trim raw) = looksTruncated raw := by
  simp only [looksTruncated, ← toList_trim, trim_trim]

theorem firstObject_trim (raw : String) : firstObject (trim raw) = firstObject raw := by
  simp only [firstObject, firstObject?, findObject?_trim, diagnose_trim]

theorem statusObject_trim (raw : String) : statusObject (trim raw) = statusObject raw := by
  simp only [statusObject, statusObject?, findObject?_trim, diagnose_trim]

end Answer

/-! ### Wrapped answers -/

namespace Gemini

/-- An output that is one object, the wrapper of an answer. -/
def IsWrapper (raw : String) (wrapper : Fields) : Prop :=
  Json.readDocument (ofText (trim raw)) = .ok (.object wrapper)

theorem IsWrapper.unwrap {raw : String} {wrapper : Fields} (h : IsWrapper raw wrapper) :
    unwrapResponse? raw = match wrapper.get? "response" with
      | some (.string s) => trimmed? s
      | some (.object fields) => some (Json.compact (.object fields))
      | _ => none := by
  have hread : Json.ofText? (trim raw) = some (.object wrapper) := by
    rw [Json.ofText?, h]
    rfl
  rw [unwrapResponse?, hread]
  rfl

/-- What stands in a wrapper is as the reader gives it, and plain. -/
theorem IsWrapper.asRead {raw : String} {wrapper : Fields} (h : IsWrapper raw wrapper) :
    Json.EntriesAsRead 126 wrapper ∧ ∀ e ∈ wrapper, Json.Plain e.2 := by
  rw [IsWrapper, Json.readDocument, bind_eq_ok] at h
  obtain ⟨⟨v, t⟩, hv, h⟩ := h
  dsimp only at h
  split at h
  · cases h
    obtain ⟨hread, hplain⟩ := Json.gives_readValue 127 _ _ _ hv
    exact ⟨Json.asRead_object_iff.mp hread, (Json.plain_object_iff.mp hplain).2⟩
  · cases h

/-- An object in a wrapper comes out as a text that gives this object, and a text in it comes out as one that
gives what it gave in the wrapper, with the same diagnosis. -/
theorem wrapped_answer {raw : String} {wrapper : Fields} (h : IsWrapper raw wrapper) :
    (∀ fields, wrapper.get? "response" = some (.object fields) →
      ∃ answer, unwrapResponse? raw = some answer ∧ Answer.firstObject answer = .ok fields ∧
        (Answer.HasStatus fields → Answer.statusObject answer = .ok fields)) ∧
    ∀ text, wrapper.get? "response" = some (.string text) → isBlankText text = false →
      ∃ answer, unwrapResponse? raw = some answer ∧
        Answer.firstObject answer = Answer.firstObject text ∧
        Answer.statusObject answer = Answer.statusObject text ∧
        Answer.diagnose answer = Answer.diagnose text ∧
        Answer.looksTruncated answer = Answer.looksTruncated text := by
  constructor
  · intro fields hfields
    obtain ⟨hentries, hplain⟩ := h.asRead
    have hread : Json.AsRead Json.maxLevels (.object fields) := (hentries.get? hfields).mono (by decide)
    obtain ⟨hobject, htrim⟩ := Json.isObjectText_compact hread (hplain _ (Fields.mem_of_get? hfields))
    have hline : '\n' ∉ (trim (Json.compact (.object fields))).toList := by
      rw [htrim, Json.compact, String.toList_ofList]
      exact Json.newline_not_mem_compactChars hread
    refine ⟨Json.compact (.object fields), by rw [h.unwrap, hfields], ?_, fun hstatus => ?_⟩
    · exact Answer.firstObject_eq_ok.mpr (Answer.findObject?_oneLine hobject hline rfl)
    · rw [← Answer.hasStatus_iff] at hstatus
      exact Answer.statusObject_eq_ok.mpr (Answer.findObject?_oneLine hobject hline hstatus)
  · intro text htext hblank
    refine ⟨trim text, ?_, Answer.firstObject_trim text, Answer.statusObject_trim text,
      Answer.diagnose_trim text, Answer.looksTruncated_trim text⟩
    rw [h.unwrap, htext]
    exact trimmed?_eq_some_iff.mpr ⟨hblank, rfl⟩

/-- A wrapper over several lines around an object with fences, a line break and a brace in a string. -/
def fencedWrapper : String :=
  " \x7b\"response\":\n\x7b\"note\":\"```\\n\x7b```\",\"status\":\"ok\",\"price\":1E5\x7d\x7d\n"

/-- A wrapper around a text that breaks off in a fenced block. -/
def cutWrapper : String :=
  "\x7b\"response\":\" ```json\\n\x7b\\\"status\\\":\\\"ok\\\",\"\x7d"

theorem wrapped_answer_fenced :
    (∃ answer, unwrapResponse? fencedWrapper = some answer ∧ Answer.statusObject answer =
      .ok [("note", .string "```\n\x7b```"), ("status", .string "ok"), ("price", .number "1e+5")]) ∧
    ∃ answer, unwrapResponse? cutWrapper = some answer ∧
      Answer.statusObject answer =
        Answer.statusObject " ```json\n\x7b\"status\":\"ok\"," ∧
      Answer.looksTruncated answer =
        Answer.looksTruncated " ```json\n\x7b\"status\":\"ok\"," := by
  have hobject : IsWrapper fencedWrapper [("response", .object [("note", .string "```\n\x7b```"),
      ("status", .string "ok"), ("price", .number "1e+5")])] := by
    rw [IsWrapper]
    decide +kernel
  have htext : IsWrapper cutWrapper
      [("response", .string " ```json\n\x7b\"status\":\"ok\",")] := by
    rw [IsWrapper]
    decide +kernel
  obtain ⟨answer, hanswer, -, hstatus⟩ := (wrapped_answer hobject).1 _ rfl
  obtain ⟨text, hunwrapped, -, hsame, -, hcut⟩ := (wrapped_answer htext).2 _ rfl (by decide +kernel)
  exact ⟨⟨answer, hanswer, hstatus ⟨"ok", rfl, by decide +kernel⟩⟩, text, hunwrapped, hsame, hcut⟩

end Gemini

end ListingCrawl
