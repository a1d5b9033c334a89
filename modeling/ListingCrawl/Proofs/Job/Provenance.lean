import ListingCrawl.Job.Provenance
import ListingCrawl.Proofs.Record.Contract

/-! What the stamp does to a record. It writes under keys of its own, none of them a key of the contract,
so that a stamped record keeps the contract and reports a failure if it did so before. -/

namespace ListingCrawl

namespace Provenance

/-- The keys under which facts about a job are written. -/
def keys : List String :=
  ["source", "tool", "result_source", "run_id", "auth_check_error", "repair_attempts", "tool_error"]

/-- The keys under which these facts are written. -/
def written (p : Provenance) : List String :=
  p.fields.keys

/-- Each fact has a place of its own. -/
theorem written_sublist (p : Provenance) : p.written.Sublist keys := by
  have hone : ∀ {β : Type} (o : Option β) (key : String) (value : β → Json),
      ((o.map fun x => (key, value x)).toList.map Prod.fst).Sublist [key] := by
    intro β o key value
    cases o <;> simp
  simp only [written, Fields.keys, fields, List.map_append]
  exact ((((((hone _ _ _).append (hone _ _ _)).append (hone _ _ _)).append (hone _ _ _)).append
    (hone _ _ _)).append (hone _ _ _)).append (hone _ _ _)

theorem nodup_written (p : Provenance) : p.written.Nodup := by
  have hkeys : keys.Nodup := by decide
  exact hkeys.sublist p.written_sublist

/-- Each fact has its key and its way to be written. -/
theorem mem_fields_iff {p : Provenance} {key : String} {v : Json} : (key, v) ∈ p.fields ↔
    (∃ m, p.source = some m ∧ key = "source" ∧ v = .string m.name) ∨
    (∃ tool, p.tool = some tool ∧ key = "tool" ∧ v = .string tool) ∨
    (∃ s, p.resultSource = some s ∧ key = "result_source" ∧ v = .string s.name) ∨
    (∃ runId, p.runId = some runId ∧ key = "run_id" ∧ v = .string runId) ∨
    (∃ e, p.authCheckError = some e ∧ key = "auth_check_error" ∧ v = .string e.message) ∨
    (∃ n, p.repairAttempts = some n ∧ key = "repair_attempts" ∧ v = .number (toString n)) ∨
    ∃ e, p.toolError = some e ∧ key = "tool_error" ∧ v = .string e.message := by
  have hone : ∀ {β : Type} (o : Option β) (name : String) (value : β → Json),
      (key, v) ∈ (o.map fun x => (name, value x)).toList ↔ ∃ x, o = some x ∧ key = name ∧ v = value x := by
    intro β o name value
    cases o <;> simp
  simp only [fields, List.mem_append, hone, or_assoc]

theorem get?_fields_iff {p : Provenance} {key : String} {v : Json} :
    p.fields.get? key = some v ↔ (key, v) ∈ p.fields :=
  ⟨Fields.mem_of_get?, Fields.get?_of_mem p.nodup_written⟩

theorem key_of_mem_fields {p : Provenance} {e : String × Json} (h : e ∈ p.fields) : e.1 ∈ keys :=
  p.written_sublist.subset (List.mem_map_of_mem h)

/-- No fact is about a key of the contract. -/
theorem not_mem_contract : ∀ key ∈ keys, key ∉ Listing.keys := by
  decide

/-- What holds of a record and is kept by each fact of a stamp holds of the stamped record. -/
theorem stamp_induction {P : Record → Prop} {r : Record} (p : Provenance) (h : P r)
    (hinsert : ∀ r, ∀ e ∈ p.fields, P r → P (r.insert e.1 e.2)) : P (p.stamp r) := by
  rw [stamp]
  generalize p.fields = es at hinsert
  induction es generalizing r with
  | nil => exact h
  | cons e es ih =>
    have hfirst := hinsert r e List.mem_cons_self h
    exact ih hfirst fun r d hd => hinsert r d (List.mem_cons_of_mem e hd)

theorem conforms_stamp (p : Provenance) {r : Record} (h : r.Conforms) : (p.stamp r).Conforms := by
  apply p.stamp_induction h
  intro r e he hr
  exact hr.insert e.2 (not_mem_contract e.1 (key_of_mem_fields he))

theorem reportsFailure_stamp (p : Provenance) {r : Record} (h : r.ReportsFailure) :
    (p.stamp r).ReportsFailure := by
  apply p.stamp_induction h
  intro r e he hr
  have hreport : ∀ key ∈ keys, key ≠ "status" ∧ key ≠ "error" := by decide
  obtain ⟨hstatus, herror⟩ := hreport e.1 (key_of_mem_fields he)
  exact hr.insert e.2 hstatus herror

/-- The stamp leaves all but its own keys as they are. -/
theorem without_stamp (p : Provenance) (r : Record) :
    (p.stamp r).fields.without p.written = r.fields.without p.written := by
  apply p.stamp_induction (P := fun r' => r'.fields.without p.written = r.fields.without p.written) rfl
  intro r' e he hr
  have hkey : e.1 ∈ p.written := List.mem_map_of_mem he
  exact (Fields.without_insert hkey).trans hr

theorem stamp_fields (p : Provenance) (r : Record) :
    (p.stamp r).fields = p.fields.foldl (fun fs e => fs.insert e.1 e.2) r.fields := by
  rw [stamp, ← List.foldl_hom Record.fields]
  intro r e
  rfl

/-- A stamped record has the fact under its key, if there is one. -/
theorem get?_stamp (p : Provenance) (r : Record) (key : String) :
    (p.stamp r).get? key = (p.fields.get? key).or (r.get? key) := by
  rw [Record.get?, stamp_fields, Fields.get?_foldl_insert p.nodup_written]
  rfl

/-- The stamp is about other things than the status. -/
theorem status?_stamp (p : Provenance) (r : Record) : (p.stamp r).status? = r.status? := by
  apply p.stamp_induction (P := fun r' => r'.status? = r.status?) rfl
  intro r' e he hr
  have hstatus : ∀ key ∈ keys, "status" ≠ key := by decide
  rw [Record.status?, Record.text?_insert_of_ne (hstatus e.1 (key_of_mem_fields he))]
  exact hr

/-- Facts that are the same under all other keys than one leave records that are, too. -/
theorem erase_stamp {p p' : Provenance} {key : String} (h : p.fields.erase key = p'.fields.erase key)
    (r : Record) : (p.stamp r).erase key = (p'.stamp r).erase key := by
  rw [Record.erase, Record.erase, stamp_fields, stamp_fields, Fields.erase_foldl_insert,
    Fields.erase_foldl_insert, h]

/-- Apart from its own key, a failure of the agent makes no difference. -/
theorem erase_stamp_toolError (p : Provenance) (e : Option AgentError) (r : Record) :
    ({ p with toolError := e }.stamp r).erase "tool_error" =
      ({ p with toolError := none }.stamp r).erase "tool_error" := by
  apply erase_stamp
  cases e <;> simp [fields, Fields.erase]

/-- What is known but for what the check of the agent found. -/
def unchecked (p : Provenance) : Provenance :=
  { p with authCheckError := none }

/-- Apart from its own key, what the check found makes no difference. -/
theorem erase_stamp_unchecked (p : Provenance) (r : Record) :
    (p.stamp r).erase "auth_check_error" = (p.unchecked.stamp r).erase "auth_check_error" := by
  apply erase_stamp
  cases h : p.authCheckError <;> simp [fields, Fields.erase, unchecked, h]

/-- On a record without any of its keys the stamp comes last. -/
theorem stamp_fields_eq_append (p : Provenance) {r : Record}
    (h : ∀ key ∈ keys, r.contains key = false) : (p.stamp r).fields = r.fields ++ p.fields := by
  rw [stamp_fields]
  exact Fields.foldl_insert_eq_append p.nodup_written fun e he => h e.1 (key_of_mem_fields he)

theorem stamp_failed_fields (p : Provenance) (now url message : String) :
    (p.stamp (.failed now url message)).fields =
      [("url", .string url), ("status", .string "error"), ("captured_at", .string now),
        ("error", .string message)] ++ p.fields := by
  rw [stamp_fields_eq_append, Record.failed_fields]
  simp only [keys, List.forall_mem_cons]
  refine ⟨?_, ?_, ?_, ?_, ?_, ?_, ?_, by simp⟩ <;> rfl

end Provenance

end ListingCrawl
