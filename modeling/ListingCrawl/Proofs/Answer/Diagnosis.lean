import ListingCrawl.Proofs.Answer.CutOff
import ListingCrawl.Proofs.Json.ClosingBrace

/-! What the diagnosis of an answer says about it. The diagnosis unwraps a fence only where the answer starts with
one, and the search looks into any block and at every brace; yet they agree, since an object that the diagnosis
sees starts at a brace of the answer. An answer that is taken to be truncated is one whose leading brace is never
closed, or else one that is closed and malformed: the reader fails on both, and does not tell them apart. -/

namespace ListingCrawl.Answer

open Octets Text

variable {text cs : List Char} {fields : Fields}

/-! ### Diagnosis and search -/

theorem issueOfValue_ne_emptyAnswer (text : List Char) : issueOfValue text ≠ .emptyAnswer := by
  unfold issueOfValue
  repeat' split
  all_goals exact Issue.noConfusion

theorem issueOf_eq_emptyAnswer : issueOf text = .emptyAnswer ↔ text = [] := by
  cases text with
  | nil => exact ⟨fun _ => rfl, fun _ => rfl⟩
  | cons c text =>
    rw [issueOf, List.isEmpty_cons, if_neg Bool.false_ne_true]
    exact iff_of_false (issueOfValue_ne_emptyAnswer _) (List.cons_ne_nil _ _)

/-- The first value of a text, if it is an object, starts at a brace of the text. -/
theorem objectStarts_of_readFirst? {r : Octets}
    (h : Json.readFirst? (ofChars text) = some (.ok (.object fields, r))) : ObjectStarts text fields := by
  obtain ⟨t, hskip, hread⟩ := Json.exists_openBrace_of_readValue (Json.readFirst?_object_iff.mp h)
  obtain ⟨after, hafter, heq⟩ := suffix_openBrace_iff.mp (Json.skipSpace_suffix hskip)
  refine ⟨after, hafter, ?_⟩
  rw [objectAt?, ← heq, Json.readFirst?_object_iff.mpr hread]

/-- A text that is taken for an object, with a status or without, starts with one. -/
theorem objectStarts_of_issueOfValue
    (h : issueOfValue text = .unknown ∨ issueOfValue text = .missingStatus) :
    ∃ fields, ObjectStarts text fields ∧ (issueOfValue text = .unknown → hasStatus fields = true) := by
  unfold issueOfValue at h ⊢
  cases hread : Json.readFirst? (ofChars text) with
  | none => simp [hread] at h
  | some first =>
    obtain e | ⟨v, r⟩ := first
    · simp [hread] at h
    · simp only [hread] at h ⊢
      split at h
      · simp at h
      · cases v with
        | object fields =>
          refine ⟨fields, objectStarts_of_readFirst? hread, fun hunknown => ?_⟩
          by_contra hstatus
          simp [hstatus] at hunknown
        | _ => simp at h

/-- What the diagnosis looks at is a part of the text. -/
theorem part_of_unfenced (text : List Char) : unfenced text <:+: text := by
  unfold unfenced
  split
  · cases hbody : fenceBody? text with
    | none => exact List.infix_rfl
    | some body =>
      obtain ⟨before, after, htext⟩ := part_of_fenceBody? hbody
      exact (trimChars_part body).trans ⟨before, after, htext.symm⟩
  · exact List.infix_rfl

theorem objectStarts_of_diagnose {raw : String}
    (h : diagnose raw = .unknown ∨ diagnose raw = .missingStatus) :
    ∃ fields, ObjectStarts (trim raw).toList fields ∧
      (diagnose raw = .unknown → hasStatus fields = true) := by
  unfold diagnose issueOf at h ⊢
  rw [toList_trim]
  split at h
  · simp at h
  · next hne =>
    obtain ⟨fields, hstart, hstatus⟩ := objectStarts_of_issueOfValue h
    obtain ⟨before, after, htext⟩ := part_of_unfenced (trimChars raw.toList)
    rw [if_neg hne]
    exact ⟨fields, htext ▸ hstart.of_part before after, hstatus⟩

/-! ### Truncated answers -/

theorem looksTruncated_eq_true {raw : String} : looksTruncated raw = true ↔
    ∃ cs, opened (trimChars raw.toList) = '{' :: cs ∧
      issueOfValue ('{' :: cs) = .invalidOrTruncated := by
  unfold looksTruncated
  rw [Bool.and_eq_true, beq_iff_eq, List.isPrefixOf_iff_prefix]
  constructor
  · rintro ⟨⟨cs, hcs⟩, hissue⟩
    rw [← hcs, List.singleton_append, issueOf_openBrace] at hissue
    exact ⟨cs, hcs.symm, hissue⟩
  · rintro ⟨cs, hcs, hissue⟩
    rw [hcs, issueOf_openBrace]
    exact ⟨List.prefix_append ['{'] cs, hissue⟩

/-- The text that is tested for truncation is the one that the diagnosis looks at, but for a block that is not
closed; and of that the diagnosis reads nothing. -/
theorem issueOf_of_opened (h : opened text = '{' :: cs) :
    issueOf text = issueOfValue ('{' :: cs) ∨ issueOf text = .invalidOrTruncated := by
  by_cases hfence : fence <+: text
  · obtain ⟨rest, rfl⟩ := hfence
    cases hbody : fenceBody? (fence ++ rest) with
    | none =>
      right
      rw [issueOf, if_neg (by simp [fence]), unfenced, isPrefixOf_fence, if_pos rfl, hbody]
      exact issueOfValue_fence rest
    | some body =>
      obtain ⟨hopened, hissue⟩ := opened_closed hbody
      left
      rw [hissue, ← hopened, h]
  · have hnot : ¬fence.isPrefixOf text = true := fun hp => hfence (List.isPrefixOf_iff_prefix.mp hp)
    left
    rw [opened, if_neg hnot] at h
    rw [h, issueOf_openBrace]

/-- The diagnosis agrees with the search and with the test for truncation: what it finds nothing wrong with holds
an object with a status, and what it takes for an object holds one. -/
theorem diagnose_agrees (raw : String) :
    (∀ refusal, statusObject raw = .error refusal → diagnose raw ≠ .unknown) ∧
    (∀ refusal, firstObject raw = .error refusal →
      diagnose raw ≠ .missingStatus ∧ diagnose raw ≠ .unknown) ∧
    (diagnose raw = .emptyAnswer ↔ trim raw = "") ∧
    (looksTruncated raw = true → diagnose raw = .invalidOrTruncated) := by
  refine ⟨fun refusal hrefused hunknown => ?_, fun refusal hrefused => ?_, ?_, fun h => ?_⟩
  -- a refusal against what the diagnosis sees: an object there starts at a brace that the search would try
  · obtain ⟨fields, hstart, hstatus⟩ := objectStarts_of_diagnose (.inl hunknown)
    obtain ⟨found, hfound⟩ := Option.isSome_iff_exists.mp (findObject?_isSome hstart (hstatus hunknown))
    rw [statusObject_eq_ok.mpr hfound] at hrefused
    cases hrefused
  · rw [← not_or]
    intro hobject
    obtain ⟨fields, hstart, -⟩ := objectStarts_of_diagnose hobject.symm
    have hsome : (findObject? (fun _ => true) raw).isSome = true := findObject?_isSome hstart rfl
    obtain ⟨found, hfound⟩ := Option.isSome_iff_exists.mp hsome
    rw [firstObject_eq_ok.mpr hfound] at hrefused
    cases hrefused
  · rw [diagnose, issueOf_eq_emptyAnswer, ← toList_trim, String.toList_eq_nil_iff]
  · obtain ⟨cs, hopened, hissue⟩ := looksTruncated_eq_true.mp h
    obtain hsame | htruncated := issueOf_of_opened hopened
    · rw [diagnose, hsame, hissue]
    · exact htruncated

/-! ### The closing brace -/

/-- A value is read from the front of the text. -/
def StartsValue (s : Octets) : Prop :=
  ∃ x, Json.readFirst? s = some (.ok x)

/-- What begins with a brace is in order if a value starts there, be it an object or the number that one holds. -/
theorem issueOfValue_openBrace :
    issueOfValue ('{' :: cs) = .invalidOrTruncated ↔ ¬StartsValue (ofChars ('{' :: cs)) := by
  unfold issueOfValue StartsValue
  rw [ofChars_openBrace, Json.readFirst?_openBrace]
  cases Json.readObject (Json.readValue 126) (ofChars cs) with
  | error e => simp
  | ok x =>
    refine iff_of_false ?_ (not_not_intro ⟨x, rfl⟩)
    dsimp only
    repeat' split
    all_goals simp

/-- The value that starts at a brace is the one up to the brace that closes it. -/
theorem startsValue_iff {s : Octets} : StartsValue (openBrace :: s) ↔
    ∃ stop, Json.objectEnd? (openBrace :: s) 0 = some stop ∧ StartsValue ((openBrace :: s).take stop) := by
  constructor
  · rintro ⟨⟨v, r⟩, hv⟩
    rw [Json.readFirst?_openBrace] at hv
    obtain ⟨ms, hread, -⟩ := Json.readObject_eq_ok.mp (Option.some.inj hv)
    obtain ⟨c, -, rfl, hclosed⟩ := Json.closed_readObject (Json.local_readValue 126) _ _ _ (Option.some.inj hv)
    refine ⟨1 + c.length, ?_, (v, []), ?_⟩
    · rw [Json.objectEnd?_openBrace, Json.closing?_of_readMembers hread, Option.map_some]
    · have hwhole := hclosed []
      rw [List.append_nil] at hwhole
      rw [Nat.add_comm, List.take_succ_cons, List.take_left, Json.readFirst?_openBrace, hwhole]
  · rintro ⟨stop, hstop, ⟨v, r⟩, hv⟩
    rw [Json.objectEnd?_openBrace, Option.map_eq_some_iff] at hstop
    obtain ⟨k, -, rfl⟩ := hstop
    rw [Nat.add_comm, List.take_succ_cons, Json.readFirst?_openBrace] at hv
    obtain ⟨c, -, hc, hclosed⟩ := Json.closed_readObject (Json.local_readValue 126) _ _ _ (Option.some.inj hv)
    have hs : s = c ++ (r ++ s.drop k) := by
      rw [← List.append_assoc, ← hc, List.take_append_drop]
    exact ⟨(v, r ++ s.drop k), by rw [Json.readFirst?_openBrace, hs, hclosed, ← hs]⟩

/-- The leading brace is closed, but what stands up to there is no value. -/
def Malformed (s : Octets) : Prop :=
  ∃ stop, Json.objectEnd? s 0 = some stop ∧ ¬StartsValue (s.take stop)

/-- An answer is taken to be truncated exactly if its object is never closed, or is closed and malformed. -/
theorem looksTruncated_iff (raw : String) : looksTruncated raw = true ↔
    ∃ cs, opened (trimChars raw.toList) = '{' :: cs ∧
      (Json.objectEnd? (ofChars ('{' :: cs)) 0 = none ∨ Malformed (ofChars ('{' :: cs))) := by
  have hunread : ∀ cs, ¬StartsValue (ofChars ('{' :: cs)) ↔
      Json.objectEnd? (ofChars ('{' :: cs)) 0 = none ∨ Malformed (ofChars ('{' :: cs)) := by
    intro cs
    rw [ofChars_openBrace, startsValue_iff]
    cases hstop : Json.objectEnd? (openBrace :: ofChars cs) 0 with
    | none => simp
    | some stop => simp [Malformed, hstop]
  simp only [looksTruncated_eq_true, issueOfValue_openBrace, hunread]

/-- A complete answer whose texts stand in single quotes. -/
def singleQuoted : String := "\x7b'status':'ok'\x7d"

/-- The answer is taken to be truncated, and its brace is closed. -/
theorem looksTruncated_closed : looksTruncated singleQuoted = true ∧
    opened (trimChars singleQuoted.toList) = singleQuoted.toList ∧
    Json.objectEnd? (ofText singleQuoted) 0 = some 15 := by
  refine ⟨?_, ?_, ?_⟩
  · decide +kernel
  · decide +kernel
  · decide +kernel

end ListingCrawl.Answer
