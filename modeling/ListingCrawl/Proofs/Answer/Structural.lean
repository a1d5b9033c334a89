import ListingCrawl.Proofs.Answer.Order
import ListingCrawl.Proofs.Json.Phase

/-! What a string literal holds is not taken for the answer. The scan also tries the braces in the string
literals of an object text, and from some of them it reads an object out of phase. But no key of such an
object is `status`, so every object with a status starts outside of the literals. -/

namespace ListingCrawl.Answer

open Octets Text

/-- What follows this text stands in a string literal. -/
def InLiteral (before : List Char) : Prop :=
  (ofChars before).foldl Json.Quoting.next .outside ≠ .outside

instance (before : List Char) : Decidable (InLiteral before) :=
  inferInstanceAs (Decidable (_ ≠ _))

/-- An object that starts at a brace has a text of its own there. -/
theorem exists_objectText {after : List Char} {fields : Fields}
    (h : objectAt? (ofChars ('{' :: after)) = some fields) :
    ∃ (o : String) (rest : List Char), '{' :: after = o.toList ++ rest ∧
      Json.IsObjectText o fields := by
  rw [ofChars_openBrace] at h
  obtain ⟨ms, r, hread, hfields⟩ := objectAt?_openBrace.mp h
  -- the reader stops behind a closing brace, so what it has read is a text
  have hsuffix := Json.suffix_of_readMembers (Json.local_readValue 126) hread
  obtain ⟨rest, ⟨front, hfront⟩, hrest⟩ := suffix_closeBrace_iff.mp hsuffix
  rw [ofChars_closeBrace] at hrest
  obtain rfl := (List.cons.inj hrest).2
  obtain ⟨c, -, hc, hclosed⟩ := Json.closed_readMembers (Json.local_readValue 126) _ _ _ hread
  rw [List.append_cons] at hfront
  have hown : c = ofChars (front ++ ['}']) := by
    rw [← hfront, ofChars_append] at hc
    exact (List.append_cancel_right hc).symm
  have hread' := hclosed []
  rw [List.append_nil, hown] at hread'
  refine ⟨String.ofList ('{' :: (front ++ ['}'])), rest, ?_, Json.isObjectText_iff.mpr ?_⟩
  · rw [String.toList_ofList, ← hfront, List.cons_append]
  · exact ⟨front ++ ['}'], ms, String.toList_ofList, hread', hfields⟩

/-- At a brace in a literal of an object text no object with a status starts. -/
theorem not_hasStatus_of_inLiteral {s : String} {outer found : Fields} {before after : List Char}
    (h : Json.IsObjectText s outer) (hs : s.toList = before ++ '{' :: after) (hplace : InLiteral before)
    (hat : objectAt? (ofChars ('{' :: after)) = some found) : ¬HasStatus found := by
  rintro ⟨status, hget, -⟩
  rw [ofChars_openBrace] at hat
  obtain ⟨ms, r, hread, hobject⟩ := objectAt?_openBrace.mp hat
  obtain ⟨-, rfl⟩ := Json.ofMembers?_eq_object_iff.mp hobject
  have horderly := h.orderly
  rw [ofText, hs, ofChars_append, ofChars_openBrace] at horderly
  have hmem := Fields.mem_of_mem_ofEntries (Fields.mem_of_get? hget)
  exact Json.not_startsApart_status (Json.startsApart_of_readMembers horderly hplace hread _ hmem)

/-- Of an object text, complete or cut off, only an object that starts outside of its string literals is
taken as the one with a status; and at no brace inside of them such an object starts. -/
theorem status_outside_literals {p q : String} {outer : Fields} (h : Json.IsObjectText (p ++ q) outer) :
    (∀ found, statusObject p = .ok found → ∃ (before : List Char) (o : String) (after : List Char),
      p.toList = before ++ o.toList ++ after ∧ ¬InLiteral before ∧ Json.IsObjectText o found) ∧
    ∀ before after found, p.toList = before ++ '{' :: after → InLiteral before →
      objectAt? (ofChars ('{' :: after)) = some found → ¬HasStatus found := by
  have hinside : ∀ before after found, p.toList = before ++ '{' :: after → InLiteral before →
      objectAt? (ofChars ('{' :: after)) = some found → ¬HasStatus found := by
    intro before after found hp hplace hat
    have hs : (p ++ q).toList = before ++ '{' :: (after ++ q.toList) := by
      rw [String.toList_append, hp, List.append_assoc, List.cons_append]
    rw [ofChars_openBrace] at hat
    have hat' := objectAt?_append hat (ofChars q.toList)
    rw [← ofChars_append, ← ofChars_openBrace] at hat'
    exact not_hasStatus_of_inLiteral h hs hplace hat'
  refine ⟨fun found hfound => ?_, hinside⟩
  obtain ⟨hstart, hstatus⟩ := findObject?_sound (statusObject_eq_ok.mp hfound)
  rw [toList_trim] at hstart
  obtain ⟨lead, trail, hp⟩ := trimChars_part p.toList
  obtain ⟨after, ⟨before, hbefore⟩, hat⟩ := hp ▸ hstart.of_part lead trail
  obtain ⟨o, rest, ho, hobject⟩ := exists_objectText hat
  refine ⟨before, o, rest, ?_, fun hplace => ?_, hobject⟩
  · rw [← hbefore, ho, List.append_assoc]
  · exact hinside before after found hbefore.symm hplace hat ((hasStatus_iff found).mp hstatus)

/-- An object text, cut before its last brace. A brace in one literal and the colon in the next make an object
when they are read out of phase. -/
theorem status_outside_literals_cut :
    (∃ (before : List Char) (o : String) (after : List Char),
      "\x7b\"a\":\"\x7b\",\":\x7b\x7d\x7d\":1,\"b\":\x7b\"status\":\"ok\"\x7d".toList =
        before ++ o.toList ++ after ∧
      ¬InLiteral before ∧ Json.IsObjectText o [("status", .string "ok")]) ∧
    ¬HasStatus [(",", .object [])] := by
  have hobject : Json.IsObjectText
      ("\x7b\"a\":\"\x7b\",\":\x7b\x7d\x7d\":1,\"b\":\x7b\"status\":\"ok\"\x7d" ++ "\x7d")
      [("a", .string "\x7b"), (":\x7b\x7d\x7d", .number "1"),
        ("b", .object [("status", .string "ok")])] :=
    ⟨rfl, by decide +kernel⟩
  obtain ⟨htaken, hinside⟩ := status_outside_literals hobject
  refine ⟨htaken _ (by decide +kernel), ?_⟩
  exact hinside "\x7b\"a\":\"".toList
    "\",\":\x7b\x7d\x7d\":1,\"b\":\x7b\"status\":\"ok\"\x7d".toList _ rfl (by decide +kernel)
    (by decide +kernel)

end ListingCrawl.Answer
