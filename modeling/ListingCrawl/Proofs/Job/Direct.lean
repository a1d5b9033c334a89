import ListingCrawl.Proofs.Job.Acceptance
import ListingCrawl.Proofs.Job.Outcome
import ListingCrawl.Proofs.Job.Ready
import ListingCrawl.Proofs.Record.NormalForm

/-! Jobs whose result is the agent's answer. An answer is checked twice, when it is accepted and at the end
of the job. The second check finds what the first has left and changes nothing, so that an accepted answer
comes out as it was taken in, but for the facts stamped on it. Where no answer is accepted, the record is
made anew and has nothing of the answers. -/

namespace ListingCrawl

/-- The keys under which a job in direct mode writes facts. -/
def Provenance.directKeys : List String :=
  ["source", "tool", "result_source", "auth_check_error", "repair_attempts"]

/-- The outcome has this record, but for the keys of facts about the job. The job has not failed, or only
to store the record. -/
structure Outcome.Delivers (o : Outcome) (r : Record) : Prop where
  error : ∀ e, o.error = some e → e.IsStore
  record : ∃ facts : Provenance, facts.written ⊆ Provenance.directKeys ∧ o.record = facts.stamp r ∧
    o.record.fields.without facts.written = r.fields.without facts.written

/-- The outcome has an error and a record of it, with these facts and nothing else. -/
structure Outcome.Reports (o : Outcome) (now url : String) (facts : Provenance) (e : CrawlError) :
    Prop where
  beforeStore : ¬ e.IsStore
  error : o.error = some e
  record : o.record.fields = [("url", .string url), ("status", .string "error"),
    ("captured_at", .string now), ("error", .string e.message)] ++ facts.fields

namespace Service

variable {α : Type}

/-! ### The second check -/

/-- Takes answers as results for a page. -/
abbrev acceptFor (url : String) : Repair.Accept Record := fun now raw =>
  Recovery.acceptDirect now url raw

/-- The end of a job has nothing to do to an accepted record. -/
theorem settle_acceptFor {time url raw : String} {r : Record} (h : acceptFor url time raw = .ok r)
    (now url' : String) : settle now url' (.ok r) = (r, none) := by
  obtain ⟨fields, -, hr, l, hl⟩ := Recovery.acceptDirect_eq_ok.mp h
  have hnormal : r.normalize now url' = r := by
    rw [hr]
    exact Record.normalize_of_normal (Record.normal_normalize time url ⟨fields⟩) now url'
  simp only [settle, hnormal, hl]

theorem finish_accepted {time url raw : String} {r : Record} (h : acceptFor url time raw = .ok r)
    {p : Provenance} (hp : p.written ⊆ Provenance.directKeys) (j : Job) (mode : Option Mode)
    (w : World α) : (finish j mode (.ok r) p w).1.Delivers r := by
  have hend := ends_finish j mode (.ok r) p w
  rw [unstored, settle_acceptFor h] at hend
  constructor
  · intro e he
    obtain hbefore | ⟨-, hstore, -⟩ := hend.error_cases he
    · cases hbefore
    · exact hstore
  · refine ⟨p, hp, hend.record_eq, ?_⟩
    rw [hend.record_eq, Provenance.without_stamp]

theorem finish_failed {e : CrawlError} (h : ¬ e.IsStore) (j : Job) (mode : Option Mode)
    (p : Provenance) (w : World α) :
    (finish j mode (.error ⟨e, none⟩) p w).1.Reports w.timestamp j.url p e := by
  have hend := ends_finish j mode (.error ⟨e, none⟩) p w
  refine ⟨h, hend.error_eq rfl, ?_⟩
  rw [hend.record_eq]
  exact p.stamp_failed_fields w.timestamp j.url e.message

/-! ### Taking the answer -/

/-- The facts once an answer is accepted after so many further runs. -/
def acceptedFacts (p : Provenance) (attempts : Nat) : Provenance :=
  { p with resultSource := some .toolOutput, repairAttempts := some attempts }

theorem written_acceptedFacts {t : Ready α} (hmode : t.plan.mode = .direct) (cancelled : Bool)
    (attempts : Nat) :
    (acceptedFacts (t.facts cancelled) attempts).written ⊆ Provenance.directKeys := by
  simp only [acceptedFacts, Ready.facts, hmode, Provenance.written, Provenance.fields, Fields.keys]
  cases error? (t.checked cancelled).1 <;>
    simp [Mode.runId?, Provenance.ofTool, Provenance.directKeys]

/-- The answer of the last run is the result, if it is accepted. -/
theorem runDirect_runs (a : Adapter α) (i : Invocation) (p : Provenance) (w : World α) :
    ∃ (runs : Repair.Runs) (after : World α), Asked a w runs.all after ∧
      Repair.Stages a i (acceptFor i.url) runs ∧
      ((∃ value, Repair.verdict (acceptFor i.url) runs.last = .accepted value ∧
          runDirect a i p w = (.ok value, acceptedFacts p (runs.all.length - 1), after)) ∨
        (∀ value, Repair.verdict (acceptFor i.url) runs.last ≠ .accepted value) ∧
          ∃ e, ¬ e.IsStore ∧ runDirect a i p w = (.error ⟨e, none⟩, p, after)) := by
  obtain ⟨runs, outcome, after, hrun, hasked, hstages, hc⟩ :=
    Repair.run_stages a i (acceptFor i.url) w
  have hstore := (failsInRun_runDirect a i p w).beforeStore
  refine ⟨runs, after, hasked, hstages, ?_⟩
  unfold runDirect at hstore ⊢
  rw [hrun] at hstore ⊢
  cases outcome with
  | error e =>
    refine .inr ⟨fun value hv => ?_, e, hstore ⟨e, none⟩ rfl, rfl⟩
    rw [hv] at hc
    cases hc
  | ok repaired =>
    obtain ⟨hv, hattempts⟩ := hc.eq_accepted
    refine .inl ⟨repaired.value, hv, ?_⟩
    rw [← hattempts]
    rfl

/-! ### The whole job -/

/-- The runs of a job in direct mode; the verdict on the last decides how the job ends. -/
theorem run_direct_runs {s : Service α} {r : Request} {w : World α} {t : Ready α}
    (h : s.Reaches r w t) (hmode : t.plan.mode = .direct) (cancelled : Bool) :
    ∃ (runs : Repair.Runs) (after : World α), Asked t.adapter (t.checked cancelled).2 runs.all after ∧
      Repair.Stages t.adapter (t.invocation cancelled) (acceptFor t.job.url) runs ∧
      (s.run r cancelled w).2.calls = after.calls ∧
      ((∃ value, Repair.verdict (acceptFor t.job.url) runs.last = .accepted value ∧
          (s.run r cancelled w).1.Delivers value) ∨
        (∀ value, Repair.verdict (acceptFor t.job.url) runs.last ≠ .accepted value) ∧
          ∃ e, (s.run r cancelled w).1.Reports after.timestamp t.job.url (t.facts cancelled) e) := by
  obtain ⟨runs, after, hasked, hstages, hlast⟩ :=
    runDirect_runs t.adapter (t.invocation cancelled) (t.facts cancelled) (t.checked cancelled).2
  have hurl : (t.invocation cancelled).url = t.job.url := rfl
  rw [hurl] at hstages hlast
  refine ⟨runs, after, hasked, hstages, ?_⟩
  rw [h.run_direct_eq hmode]
  obtain ⟨value, hv, hresult⟩ | ⟨hnot, e, hstore, hresult⟩ := hlast
  · rw [hresult]
    dsimp only
    obtain ⟨raw, -, haccept⟩ := Repair.verdict_eq_accepted.mp hv
    have hwritten := written_acceptedFacts hmode cancelled (runs.all.length - 1)
    have hdelivers := finish_accepted haccept hwritten t.job (some .direct) after
    exact ⟨by rw [finish_calls], .inl ⟨value, hv, hdelivers⟩⟩
  · rw [hresult]
    dsimp only
    have hreports := finish_failed hstore t.job (some .direct) (t.facts cancelled) after
    exact ⟨by rw [finish_calls], .inr ⟨hnot, e, hreports⟩⟩

/-- A job in direct mode runs its agent one to three times. An accepted answer is delivered as the
canonical form of the object in it, to which the end of the job changes nothing. If no answer is accepted,
the job fails and reports this. -/
theorem run_direct {s : Service α} {r : Request} {w : World α} {t : Ready α} (h : s.Reaches r w t)
    (hmode : t.plan.mode = .direct) (cancelled : Bool) :
    ∃ (runs : List Exchange) (after : World α),
      Asked t.adapter (t.checked cancelled).2 runs after ∧
      (s.run r cancelled w).2.calls = w.calls ++ [.check t.adapter.name] ++
        runs.map (fun e => .run t.adapter.name e.invocation) ∧
      1 ≤ runs.length ∧ runs.length ≤ 3 ∧
      (∀ e ∈ runs, ∀ raw value, e.answer = .ok raw →
        Recovery.acceptDirect e.time t.job.url raw = .ok value →
          (∃ fields, Answer.statusObject raw = .ok fields ∧
            value = Record.normalize e.time t.job.url ⟨fields⟩) ∧
          (∀ now url, settle now url (.ok value) = (value, none)) ∧
          (s.run r cancelled w).1.Delivers value) ∧
      ((∀ e ∈ runs, ∀ raw value, e.answer = .ok raw →
        Recovery.acceptDirect e.time t.job.url raw ≠ .ok value) →
          ∃ e, (s.run r cancelled w).1.Reports after.timestamp t.job.url (t.facts cancelled) e) := by
  obtain ⟨runs, after, hasked, hstages, hcalls, hlast⟩ := run_direct_runs h hmode cancelled
  have hleast : 1 ≤ runs.all.length := List.length_pos_of_mem runs.last_mem
  refine ⟨runs.all, after, hasked, ?_, hleast, runs.length_all_le, ?_, ?_⟩
  · rw [hcalls, hasked.calls_eq, h.calls_checked]
  · intro e he raw value hraw haccept
    have hv : Repair.verdict (acceptFor t.job.url) e = .accepted value :=
      Repair.verdict_eq_accepted.mpr ⟨raw, hraw, haccept⟩
    obtain rfl := hstages.eq_last he (by simp [hv, Repair.Verdict.IsRejected])
    obtain ⟨value', hv', hdelivers⟩ | ⟨hnot, -⟩ := hlast
    · cases hv.symm.trans hv'
      obtain ⟨fields, hfields, hvalue, -⟩ := Recovery.acceptDirect_eq_ok.mp haccept
      exact ⟨⟨fields, hfields, hvalue⟩, settle_acceptFor haccept, hdelivers⟩
    · exact absurd hv (hnot value)
  · intro hnone
    obtain ⟨value, hv, -⟩ | ⟨-, hreports⟩ := hlast
    · obtain ⟨raw, hraw, haccept⟩ := Repair.verdict_eq_accepted.mp hv
      exact absurd haccept (hnone runs.last runs.last_mem raw value hraw)
    · exact hreports

/-- The agent answers with the least object that is accepted. -/
theorem run_direct_statusOnly :
    ((single (constant "stub")).run (skillJob none).toRequest false
      (answeringWorld ⟨[], []⟩ (.ok "\x7b\"status\":\"ok\"\x7d"))).1.Delivers
        ⟨[("status", .string "ok"), ("url", .string "app://shopee.tw/1"),
          ("captured_at", .string "2026-01-01T00:00:00.000Z"), ("images", .array []),
          ("variations", .array [])]⟩ := by
  have hjob : (skillJob none).toRequest.toJob (fun _ => none) = .ok (skillJob none) := by
    decide +kernel
  have hmade : (FileTree.makeDirectories ⟨[], []⟩ ⟨"out"⟩).1 = .ok () := by decide +kernel
  have haccept : Recovery.acceptDirect (answeringWorld ⟨[], []⟩ (.ok "")).timestamp
      "app://shopee.tw/1" "\x7b\"status\":\"ok\"\x7d" = .ok ⟨[("status", .string "ok"),
        ("url", .string "app://shopee.tw/1"), ("captured_at", .string "2026-01-01T00:00:00.000Z"),
        ("images", .array []), ("variations", .array [])]⟩ := by
    decide +kernel
  obtain ⟨runs, after, hasked, -, hleast, -, haccepted, -⟩ :=
    run_direct (reaches_skillJob hjob hmade (.ok "\x7b\"status\":\"ok\"\x7d")) rfl false
  cases hasked with
  | nil => cases hleast
  | cons head tail =>
    cases head
    exact (haccepted _ List.mem_cons_self _ _ rfl haccept).2.2

end Service

end ListingCrawl
