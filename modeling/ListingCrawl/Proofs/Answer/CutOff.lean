import ListingCrawl.Proofs.Answer.Search
import ListingCrawl.Proofs.Text.Cut

/-! Answers that break off. An object text that is cut anywhere before its closing brace is diagnosed as
truncated, and no object starts at its first brace; only objects nested in it may be complete. Behind the
opening line of a fence the same holds: backticks in its strings may close the block, and then it is cut
there. -/

namespace ListingCrawl.Answer

open Octets Text

variable {p q : String} {fields inner : Fields}

/-- What begins with a brace is judged as it stands. -/
theorem issueOf_openBrace (cs : List Char) : issueOf ('{' :: cs) = issueOfValue ('{' :: cs) := by
  have hfence : fence.isPrefixOf ('{' :: cs) = false := rfl
  rw [issueOf, List.isEmpty_cons, if_neg Bool.false_ne_true, unfenced, hfence,
    if_neg Bool.false_ne_true]

/-- What begins with a brace and cannot be read is truncated. -/
theorem issueOf_of_error {kept : List Char} {e : Json.ReadError}
    (h : Json.readFirst? (ofChars ('{' :: kept)) = some (.error e)) :
    issueOf ('{' :: kept) = .invalidOrTruncated := by
  rw [issueOf_openBrace, issueOfValue, h]

/-- A text that is cut off is no usable object, whatever is nested in it. -/
theorem diagnose_cutOff (h : Json.IsObjectText (p ++ q) fields) (hp : p ≠ "") (hq : q ≠ "") :
    diagnose p = .invalidOrTruncated := by
  obtain ⟨kept, e, hkept, hread⟩ := h.cutOff hp hq
  rw [diagnose, hkept, issueOf_of_error hread]

theorem objectStarts_cons {c : Char} {cs : List Char} : ObjectStarts (c :: cs) fields ↔
    c = '{' ∧ objectAt? (ofChars ('{' :: cs)) = some fields ∨ ObjectStarts cs fields := by
  constructor
  · rintro ⟨after, hafter, hobject⟩
    obtain heq | hsuffix := List.suffix_cons_iff.mp hafter
    · obtain ⟨rfl, rfl⟩ := List.cons.inj heq
      exact .inl ⟨rfl, hobject⟩
    · exact .inr ⟨after, hsuffix, hobject⟩
  · rintro (⟨rfl, hobject⟩ | ⟨after, hsuffix, hobject⟩)
    · exact ⟨cs, List.suffix_rfl, hobject⟩
    · exact ⟨after, hsuffix.trans (List.suffix_cons _ _), hobject⟩

/-- The objects in a text that is cut off are nested in it. -/
theorem objectStarts_cutOff (h : Json.IsObjectText (p ++ q) fields) (hp : p ≠ "") (hq : q ≠ "") :
    ObjectStarts (trim p).toList inner ↔ ObjectStarts (trim p).toList.tail inner := by
  obtain ⟨kept, e, hkept, hread⟩ := h.cutOff hp hq
  have hnone : objectAt? (ofChars ('{' :: kept)) = none := by rw [objectAt?, hread]
  rw [toList_trim, hkept, objectStarts_cons, hnone, List.tail_cons]
  simp

/-! ### Recognizing it -/

theorem looksTruncated_of_opened {raw : String} {kept : List Char} {e : Json.ReadError}
    (hopened : opened (trimChars raw.toList) = '{' :: kept)
    (h : Json.readFirst? (ofChars ('{' :: kept)) = some (.error e)) : looksTruncated raw = true := by
  rw [looksTruncated, hopened, issueOf_of_error h]
  rfl

/-- Any part of the front of an object text is one that is cut off. -/
theorem cutOff_of_prefix {s : String} {front back : List Char} (h : Json.IsObjectText s fields)
    (hs : s.toList = front ++ back) (hfront : front ≠ []) (hback : back ≠ []) :
    ∃ kept e, trimChars front = '{' :: kept ∧
      Json.readFirst? (ofChars ('{' :: kept)) = some (.error e) := by
  have hsplit : s = String.ofList front ++ String.ofList back := by
    rw [← String.ofList_append, ← hs, String.ofList_toList]
  rw [hsplit] at h
  have hcut := h.cutOff (by simpa using hfront) (by simpa using hback)
  rwa [String.toList_ofList] at hcut

/-- The block that an answer opens with its first line. -/
theorem fenceBody?_opened {line : List Char} (hline : '\n' ∉ line) (rest : List Char) :
    fenceBody? (fence ++ (line ++ ['\n'] ++ rest)) = (cutAt? fence rest).map (·.1) := by
  have hfence : fence ≠ [] := List.cons_ne_nil _ _
  simp only [fenceBody?, cutAt?_prefix hfence, cutAt?_singleton hline, bind, Option.bind, pure]
  cases cutAt? fence rest <;> rfl

/-- No value begins with a backtick. -/
theorem issueOfValue_fence (text : List Char) : issueOfValue (fence ++ text) = .invalidOrTruncated := by
  have hread : Json.readFirst? (ofChars (fence ++ text)) = some (.error .expectedValue) := by
    rw [fence, List.cons_append, ofChars_cons_ascii (by decide), Json.readFirst?]
    rfl
  rw [issueOfValue, hread]

/-- Behind an opening line only the end is trimmed. -/
theorem trimChars_opened (line cs : List Char) :
    trimChars (fence ++ (line ++ ['\n'] ++ '{' :: cs)) =
      fence ++ (line ++ ['\n'] ++ trimChars ('{' :: cs)) := by
  have hopening : NoBlankEnds (fence ++ (line ++ ['\n', '{'])) := by
    constructor
    · intro c hc
      obtain rfl := Option.mem_some_iff.mp hc
      decide
    · intro c hc
      rw [← List.append_assoc, List.getLast?_append_of_ne_nil _ (List.cons_ne_nil _ _)] at hc
      obtain rfl := Option.mem_some_iff.mp hc
      decide
  have hbrace : NoBlankEnds ['{'] := by
    constructor <;>
    · intro c hc
      obtain rfl := Option.mem_some_iff.mp hc
      decide
  have hall := trimChars_append (by simp [fence]) hopening [] cs
  have hcs := trimChars_append (List.cons_ne_nil _ _) hbrace [] cs
  simp only [List.nil_append, List.dropWhile_nil, List.append_assoc, List.cons_append] at hall hcs ⊢
  rw [hall, hcs]

theorem isPrefixOf_fence (text : List Char) : fence.isPrefixOf (fence ++ text) = true :=
  List.isPrefixOf_iff_prefix.mpr (List.prefix_append fence text)

/-- A block that is closed is judged in place of the answer. -/
theorem opened_closed {text body : List Char} (h : fenceBody? (fence ++ text) = some body) :
    opened (fence ++ text) = trimChars body ∧
      issueOf (fence ++ text) = issueOfValue (trimChars body) := by
  constructor
  · rw [opened, isPrefixOf_fence, if_pos rfl, h]
  · rw [issueOf, if_neg (by simp [fence]), unfenced, isPrefixOf_fence, if_pos rfl, h, Option.map_some,
      Option.getD_some]

/-- A block that is not closed goes to the end of the answer. -/
theorem opened_unclosed {line rest : List Char} (hline : '\n' ∉ line)
    (h : fenceBody? (fence ++ (line ++ ['\n'] ++ rest)) = none) :
    opened (fence ++ (line ++ ['\n'] ++ rest)) = trimChars rest ∧
      issueOf (fence ++ (line ++ ['\n'] ++ rest)) = .invalidOrTruncated := by
  constructor
  · have hline' : '\n' ∉ fence ++ line := by
      rw [List.mem_append, not_or]
      exact ⟨by decide, hline⟩
    have hcut := cutAt?_singleton hline' rest
    rw [List.append_assoc, List.append_assoc, ← List.append_assoc line] at hcut
    simp only [opened, isPrefixOf_fence, if_pos, h, hcut]
  · rw [issueOf, if_neg (by simp [fence]), unfenced, isPrefixOf_fence, if_pos rfl, h]
    exact issueOfValue_fence _

/-- A cut object text behind an opening line is judged as one that is cut off, perhaps earlier. -/
theorem opened_cutOff {s : String} {line cs back : List Char} (hline : '\n' ∉ line)
    (h : Json.IsObjectText s fields) (hs : s.toList = '{' :: cs ++ back) (hback : back ≠ []) :
    ∃ kept e, opened (trimChars (fence ++ (line ++ ['\n'] ++ '{' :: cs))) = '{' :: kept ∧
      Json.readFirst? (ofChars ('{' :: kept)) = some (.error e) ∧
      issueOf (trimChars (fence ++ (line ++ ['\n'] ++ '{' :: cs))) = .invalidOrTruncated := by
  rw [trimChars_opened]
  have hblock := fenceBody?_opened hline (trimChars ('{' :: cs))
  cases hcut : cutAt? fence (trimChars ('{' :: cs)) with
  | none =>
    rw [hcut, Option.map_none] at hblock
    obtain ⟨hopened, hissue⟩ := opened_unclosed hline hblock
    obtain ⟨kept, e, hkept, hread⟩ := cutOff_of_prefix h hs (List.cons_ne_nil _ _) hback
    have hrest : trimChars (trimChars ('{' :: cs)) = '{' :: kept := by
      rw [trimChars_eq_self (noBlankEnds_trimChars _), hkept]
    exact ⟨kept, e, hopened.trans hrest, hread, hissue⟩
  | some cut =>
    obtain ⟨body, tail⟩ := cut
    rw [hcut, Option.map_some] at hblock
    obtain ⟨hopened, hissue⟩ := opened_closed hblock
    obtain ⟨kept, hkept, blanks, rfl⟩ := trimChars_cons (c := '{') (by decide) cs
    have hparts : '{' :: kept = body ++ fence ++ tail := hkept ▸ cutAt?_eq hcut
    have hbody : body ≠ [] := by
      rintro rfl
      have hfirst := (List.cons.inj hparts).1
      revert hfirst
      decide
    -- the backticks stand in a string, and the block ends before them
    have hs' : s.toList = body ++ (fence ++ tail ++ blanks ++ back) := by
      rw [hs, ← List.cons_append, hparts]
      simp only [List.append_assoc]
    obtain ⟨kept', e, hkept', hread⟩ := cutOff_of_prefix h hs' hbody (by simp [fence])
    rw [hkept'] at hopened hissue
    rw [issueOfValue, hread] at hissue
    exact ⟨kept', e, hopened, hread, hissue⟩

/-- An object text that is cut off is recognized as truncated, alone and behind an opening fence line,
whatever its strings hold. -/
theorem cutOff_recognized (h : Json.IsObjectText (p ++ q) fields) (hp : p ≠ "") (hq : q ≠ "") :
    (looksTruncated p = true ∧ diagnose p = .invalidOrTruncated) ∧
    ∀ line : String, '\n' ∉ line.toList →
      looksTruncated ("```" ++ line ++ "\n" ++ p) = true ∧
      diagnose ("```" ++ line ++ "\n" ++ p) = .invalidOrTruncated := by
  have hq' : q.toList ≠ [] := by simpa using hq
  obtain ⟨cs, hcs⟩ : ∃ cs, p.toList = '{' :: cs := by
    obtain ⟨all, hall⟩ := h.eq_cons
    rw [String.toList_append] at hall
    obtain hnil | ⟨cs, hcs, -⟩ := List.append_eq_cons_iff.mp hall
    · exact absurd (String.toList_eq_nil_iff.mp hnil.1) hp
    · exact ⟨cs, hcs⟩
  constructor
  · obtain ⟨kept, e, hkept, hread⟩ := h.cutOff hp hq
    have hopened : opened (trimChars p.toList) = '{' :: kept := by
      rw [hkept]
      rfl
    exact ⟨looksTruncated_of_opened hopened hread, diagnose_cutOff h hp hq⟩
  · intro line hline
    have hs : (p ++ q).toList = '{' :: cs ++ q.toList := by rw [String.toList_append, hcs]
    have hraw : ("```" ++ line ++ "\n" ++ p).toList =
        fence ++ (line.toList ++ ['\n'] ++ '{' :: cs) := by
      simp [String.toList_append, fence, hcs]
    obtain ⟨kept, e, hopened, hread, hissue⟩ := opened_cutOff hline h hs hq'
    rw [← hraw] at hopened hissue
    exact ⟨looksTruncated_of_opened hopened hread, hissue⟩

/-- A cut behind backticks in a string, which close the block that the answer opens. -/
theorem cutOff_recognized_backticks :
    looksTruncated ("```" ++ "json" ++ "\n" ++ "\x7b\"status\":\"ok\",\"note\":\"```\",\"n\":1") = true ∧
    diagnose ("```" ++ "json" ++ "\n" ++ "\x7b\"status\":\"ok\",\"note\":\"```\",\"n\":1") =
      .invalidOrTruncated := by
  have hobject : Json.IsObjectText
      ("\x7b\"status\":\"ok\",\"note\":\"```\",\"n\":1" ++ "2\x7d")
      [("status", .string "ok"), ("note", .string "```"), ("n", .number "12")] :=
    ⟨rfl, by decide +kernel⟩
  exact (cutOff_recognized hobject (by decide) (by decide)).2 "json" (by decide)

end ListingCrawl.Answer
