import ListingCrawl.Proofs.Job.Course

/-! Which agents a job calls. A job that does not get ready calls none. A job that does checks the one agent
that was chosen for it and then runs it, once if the result is in files and up to three times if it is in
the answer. Whatever goes wrong then, the request is not to blame any more. -/

namespace ListingCrawl

/-- With a skill and a run, the result of a job is found in files. -/
theorem Plan.mode_ne_direct {files : FileTree} {j : Job} {m : Marketplace} {plan : Plan}
    (h : Plan.ofJob files j m = .ok plan) {name : Option String} (hskill : j.prompting = .skill name)
    {runId : String} (hrun : j.runId = some runId) : plan.mode ≠ .direct := by
  unfold Plan.ofJob at h
  rw [hskill] at h
  dsimp only at h
  split at h
  · cases h
  · next skill _ =>
    cases h
    simp only [modeOf, hrun]
    cases skill.reconcile <;> simp

namespace Service

variable {α : Type} {s : Service α} {r : Request} {w : World α} {t : Ready α} {cancelled : Bool}

/-! ### Errors after the agent was called -/

theorem settle_isRun {now url : String} {result : Except Failure Record}
    (hresult : FailsInRun result) {e : CrawlError} (he : (settle now url result).2 = some e) :
    e.IsRun :=
  settle_error (P := CrawlError.IsRun) hresult (fun _ => trivial) he

/-- An error at the end is one of what the agent did, or that of storing. -/
theorem finish_error_cases {j : Job} {mode : Option Mode} {result : Except Failure Record}
    (hresult : FailsInRun result) {p : Provenance} {w : World α} {e : CrawlError}
    (he : (finish j mode result p w).1.error = some e) : e.IsRun ∨ e.IsStore := by
  obtain hbefore | ⟨-, hstore, -⟩ := (ends_finish j mode result p w).error_cases he
  · exact .inl (settle_isRun hresult hbefore)
  · exact .inr hstore

theorem Reaches.error_cases (h : s.Reaches r w t) {e : CrawlError}
    (he : (s.run r cancelled w).1.error = some e) : e.IsRun ∨ e.IsStore := by
  rw [h.run_eq] at he
  exact finish_error_cases (failsInRun_execute t.adapter t.job t.plan cancelled _ t.world) he

/-! ### The world that a job leaves -/

theorem runSnapshot_world (a : Adapter α) (i : Invocation) (outDir : Path) (runId : Option String)
    (p : Provenance) (w : World α) : (runSnapshot a i outDir runId p w).2.2 = (w.ask a i).2 := by
  unfold runSnapshot
  split
  · next h => rw [h]
  · next h =>
    rw [h]
    split <;> rfl

/-- Where the result is in files, the agent is asked once, and the job leaves the world as the agent did. -/
theorem Reaches.run_world (h : s.Reaches r w t) (hmode : t.plan.mode ≠ .direct) (cancelled : Bool) :
    (s.run r cancelled w).2 = (t.asked cancelled).2 := by
  rw [h.run_eq, executed_eq]
  cases hm : t.plan.mode with
  | direct => exact absurd hm hmode
  | finalRecord runId dir =>
    dsimp only
    rw [runFinalRecord_eq, finish_of_not_isStored rfl]
    rfl
  | snapshotPointer runId =>
    dsimp only
    rw [finish_of_not_isStored rfl, runSnapshot_world]
    rfl

theorem calls_of_not_reaches (h : ∀ t, ¬ s.Reaches r w t) (cancelled : Bool) :
    (s.run r cancelled w).2.calls = w.calls := by
  unfold run
  split
  · rfl
  · next j hj =>
    have hcalls : (openOutDir j w).2.calls = w.calls := rfl
    unfold runJob
    split
    · next e after hmade =>
      rw [hmade] at hcalls
      exact hcalls
    · next opened hmade =>
      rw [hmade] at hcalls
      have hopens : s.Opens r w j opened := ⟨hj, hmade⟩
      obtain ⟨t, hreaches, -⟩ | ⟨source, e, hrefused, -⟩ := hopens.reaches_or_refused
      · exact absurd hreaches (h t)
      · rw [runOpened, hrefused]
        dsimp only
        rw [finish_calls, hcalls]

/-! ### The calls of a job -/

/-- What a job that is ready has to do with agents: it calls the chosen one, and these are its runs. -/
structure Consults (s : Service α) (r : Request) (cancelled : Bool) (w : World α) (t : Ready α)
    (runs : List Exchange) : Prop where
  chosen : s.registry.get? t.job.tool = some t.adapter
  asked : ∃ after, Asked t.adapter (t.checked cancelled).2 runs after
  calls : (s.run r cancelled w).2.calls =
    w.calls ++ .check t.adapter.name :: runs.map fun e => .run t.adapter.name e.invocation
  direct : t.plan.mode = .direct → 1 ≤ runs.length ∧ runs.length ≤ 3
  once : t.plan.mode ≠ .direct → runs.length = 1
  notInput : ∀ e, (s.run r cancelled w).1.error ≠ some (.input e)

theorem Reaches.consults (h : s.Reaches r w t) (cancelled : Bool) :
    ∃ runs, s.Consults r cancelled w t runs := by
  obtain ⟨-, hchosen, -⟩ := prepare_eq_ok.mp h.prepared
  have hinput : ∀ e, (s.run r cancelled w).1.error ≠ some (.input e) := by
    intro e he
    obtain hrun | hstore := h.error_cases he
    · exact hrun.ne_input e rfl
    · exact hstore
  by_cases hmode : t.plan.mode = .direct
  · obtain ⟨runs, after, hasked, -, hcalls, -⟩ := run_direct_runs h hmode cancelled
    have hleast : 1 ≤ runs.all.length := List.length_pos_of_mem runs.last_mem
    refine ⟨runs.all, hchosen, ⟨after, hasked⟩, ?_, fun _ => ⟨hleast, runs.length_all_le⟩,
      fun hne => absurd hmode hne, hinput⟩
    rw [hcalls, hasked.calls_eq, h.calls_checked, List.append_assoc]
    rfl
  · have hasked : Asked t.adapter (t.checked cancelled).2
        [⟨t.invocation cancelled, (t.asked cancelled).1, (t.asked cancelled).2.timestamp⟩]
        (t.asked cancelled).2 := .one rfl
    refine ⟨_, hchosen, ⟨_, hasked⟩, ?_, fun h => absurd h hmode, fun _ => rfl, hinput⟩
    rw [h.run_world hmode, hasked.calls_eq, h.calls_checked, List.append_assoc]
    rfl

/-- A job whose request is at fault calls no agent, and neither does one that has no output directory. A job
that calls an agent is ready; it checks the chosen agent once, runs it after that and nothing else, and
does not end with an error of its request. With an unknown skill no agent is called; with a skill and a run
the answer itself is not the result. -/
theorem run_calls (s : Service α) (r : Request) (cancelled : Bool) (w : World α) :
    (∀ e, (s.run r cancelled w).1.error = some (.input e) →
      (s.run r cancelled w).2.calls = w.calls) ∧
    ((∀ j opened, ¬ s.Opens r w j opened) → (s.run r cancelled w).2.calls = w.calls) ∧
    ((s.run r cancelled w).2.calls ≠ w.calls → ∃ t, s.Reaches r w t) ∧
    (∀ t, s.Reaches r w t → ∃ runs, s.Consults r cancelled w t runs) ∧
    (∀ j m name unknown, r.toJob s.env = .ok j → Marketplace.ofUrl j.url = .ok m →
      j.prompting = .skill name → Skill.resolve m name = .error unknown →
        (s.run r cancelled w).2.calls = w.calls) ∧
    ∀ t name runId, s.Reaches r w t → t.job.prompting = .skill name → t.job.runId = some runId →
      t.plan.mode ≠ .direct := by
  refine ⟨fun e he => ?_, fun hopens => ?_, fun hcalls => ?_, fun t h => h.consults cancelled, ?_, ?_⟩
  · refine calls_of_not_reaches (fun t h => ?_) cancelled
    obtain ⟨runs, hconsults⟩ := h.consults cancelled
    exact hconsults.notInput e he
  · exact calls_of_not_reaches (fun t h => hopens _ _ h.opens) cancelled
  · by_contra hnone
    exact hcalls (calls_of_not_reaches (not_exists.mp hnone) cancelled)
  · intro j m name unknown hjob hpage hskill hunknown
    refine calls_of_not_reaches (fun t h => ?_) cancelled
    obtain rfl : t.job = j := Except.ok.inj (h.job.symm.trans hjob)
    obtain ⟨hpage', -, hplan⟩ := prepare_eq_ok.mp h.prepared
    cases hpage.symm.trans hpage'
    rw [Plan.ofJob, hskill] at hplan
    dsimp only at hplan
    rw [hunknown] at hplan
    cases hplan
  · intro t name runId h hskill hrun
    obtain ⟨-, -, hplan⟩ := prepare_eq_ok.mp h.prepared
    exact Plan.mode_ne_direct hplan hskill hrun

end Service

end ListingCrawl
