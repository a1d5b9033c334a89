import ListingCrawl.Job.Recovery
import ListingCrawl.Proofs.Answer.CutOff
import ListingCrawl.Proofs.Record.Contract

/-! When an answer is accepted as the result of a job. It is if it holds an object with a status whose
canonical form keeps the contract. An answer that breaks off in the middle of an object is not, unless a
complete object with a status is nested in what is left of it. -/

namespace ListingCrawl.Recovery

open Answer

variable {now url raw : String}

theorem acceptDirect_eq_ok {r : Record} : acceptDirect now url raw = .ok r ↔
    ∃ fields, statusObject raw = .ok fields ∧ r = Record.normalize now url ⟨fields⟩ ∧ r.Conforms := by
  unfold acceptDirect
  cases statusObject raw with
  | error e => simp
  | ok fields =>
    cases hv : (Record.normalize now url ⟨fields⟩).validate with
    | error violations => simp +contextual [hv, Record.Conforms]
    | ok l =>
      simp only [hv, Except.ok.injEq, exists_eq_left', Record.Conforms]
      constructor
      · rintro rfl
        exact ⟨rfl, l, hv⟩
      · rintro ⟨rfl, -⟩
        rfl

theorem acceptDirect_eq_extraction {issue : Issue} :
    acceptDirect now url raw = .error (.extraction issue) ↔
      (∀ fields, statusObject raw ≠ .ok fields) ∧ diagnose raw = issue := by
  unfold acceptDirect
  cases statusObject raw with
  | error e => simp
  | ok fields =>
    dsimp only
    cases (Record.normalize now url ⟨fields⟩).validate <;> simp

/-- An object text that is cut off is rejected as truncated exactly if no object with a status is nested
in what is left of it. Whatever is accepted is such a nested object, never the one that breaks off. -/
theorem acceptDirect_cutOff_iff {p q : String} {fields : Fields}
    (h : Json.IsObjectText (p ++ q) fields) (hp : p ≠ "") (hq : q ≠ "") (now url : String) :
    (acceptDirect now url p = .error (.extraction .invalidOrTruncated) ↔
      ¬ ∃ inner, ObjectStarts (Text.trim p).toList.tail inner ∧ HasStatus inner) ∧
    ∀ r, acceptDirect now url p = .ok r → ∃ inner, ObjectStarts (Text.trim p).toList.tail inner ∧
      HasStatus inner ∧ r = Record.normalize now url ⟨inner⟩ := by
  constructor
  · have hfound : (∃ inner, statusObject p = .ok inner) ↔
        ∃ inner, ObjectStarts (Text.trim p).toList.tail inner ∧ HasStatus inner := by
      simp only [statusObject_eq_ok, ← Option.isSome_iff_exists, findObject?_isSome_iff, hasStatus_iff,
        objectStarts_cutOff h hp hq]
    rw [acceptDirect_eq_extraction, ← hfound, not_exists]
    exact and_iff_left (diagnose_cutOff h hp hq)
  · intro r hr
    obtain ⟨inner, hinner, heq, -⟩ := acceptDirect_eq_ok.mp hr
    obtain ⟨hstart, hstatus⟩ := findObject?_sound (statusObject_eq_ok.mp hinner)
    exact ⟨inner, (objectStarts_cutOff h hp hq).mp hstart, (hasStatus_iff inner).mp hstatus, heq⟩

/-- An object that breaks off in its title, at any time and for any page. -/
theorem acceptDirect_cutOff_title :
    Json.IsObjectText ("\x7b\"status\":\"ok\",\"title\":\"Mu" ++ "g\"\x7d")
      [("status", .string "ok"), ("title", .string "Mug")] ∧
    ∀ now url, acceptDirect now url "\x7b\"status\":\"ok\",\"title\":\"Mu" =
      .error (.extraction .invalidOrTruncated) := by
  have htext : Json.IsObjectText ("\x7b\"status\":\"ok\",\"title\":\"Mu" ++ "g\"\x7d")
      [("status", .string "ok"), ("title", .string "Mug")] := ⟨by decide, by decide +kernel⟩
  refine ⟨htext, fun now url => ?_⟩
  refine (acceptDirect_cutOff_iff htext (by decide) (by decide) now url).1.mpr ?_
  rintro ⟨inner, ⟨after, hafter, -⟩, -⟩
  have hmem := hafter.subset List.mem_cons_self
  revert hmem
  decide

/-- An object with a status that is nested in one that breaks off is accepted in its place. -/
theorem acceptDirect_nested :
    Json.IsObjectText ("\x7b\"result\":\x7b\"status\":\"ok\"\x7d" ++ "\x7d")
      [("result", .object [("status", .string "ok")])] ∧
    acceptDirect "2026-01-01T00:00:00Z" "page" "\x7b\"result\":\x7b\"status\":\"ok\"\x7d" =
      .ok ⟨[("status", .string "ok"), ("url", .string "page"),
        ("captured_at", .string "2026-01-01T00:00:00Z"), ("images", .array []),
        ("variations", .array [])]⟩ := by
  refine ⟨⟨by decide, ?_⟩, ?_⟩
  · decide +kernel
  · decide +kernel

end ListingCrawl.Recovery
