import ListingCrawl.Proofs.Job.Course

/-! What the record of a job says about the job's failure. A record without an error comes from one of the
ways to take one; if it reports a failure all the same, it was an agent's answer that did so. A job with an
error reports it in its record, but for one case: the record of an accepted answer that could not be stored
says what the answer said. -/

namespace ListingCrawl.Service

variable {α : Type} {s : Service α} {r : Request} {w : World α} {cancelled : Bool}

theorem direct_of_isStored {mode : Mode} (h : isStored (some mode) = true) : mode = .direct := by
  cases mode with
  | direct => rfl
  | finalRecord runId dir => cases h
  | snapshotPointer runId => cases h

/-- A result without an error is a record that was taken as it is. -/
theorem taken_of_settle {t : Ready α} {result : Except Failure Record} {facts : Provenance}
    {given : Fields} (h : t.Results cancelled result facts given) {now url : String}
    (hsettled : (settle now url result).2 = none) :
    ∃ value, t.Takes cancelled value facts given ∧
      (value.isError = true → facts.resultSource = some .toolOutput) ∧
      (settle now url result).1 = value := by
  obtain ⟨value, rfl, hvalue⟩ := settle_eq_none hsettled
  cases h with
  | taken htakes hanswered =>
    rw [hvalue, Record.normalize_of_normal htakes.normal]
    exact ⟨value, htakes, hanswered, rfl⟩

/-- A job without an error has taken a record, and only stamped its facts on it. -/
theorem run_taken (h : (s.run r cancelled w).1.error = none) :
    ∃ t value facts given, s.Reaches r w t ∧ t.Takes cancelled value facts given ∧
      (value.isError = true → facts.resultSource = some .toolOutput) ∧
      (s.run r cancelled w).1.record = facts.stamp value := by
  obtain ⟨j, opened, hopens⟩ | ⟨url, e, hrefused⟩ := opens_or_refused s r w
  · obtain ⟨t, hreaches, -⟩ | ⟨source, e, -, hrun⟩ := hopens.reaches_or_refused
    · obtain ⟨given, hresults⟩ := results_executed t cancelled
      rw [hreaches.run_eq] at h ⊢
      obtain ⟨value, htakes, hanswered, hvalue⟩ := taken_of_settle hresults (settle_of_finish h)
      exact ⟨t, value, _, given, hreaches, htakes, hanswered, by rw [finish_record, hvalue]⟩
    · rw [hrun] at h
      cases settle_of_finish h
  · obtain ⟨after, hrun⟩ := hrefused cancelled
    rw [hrun] at h
    cases h

/-- A job that ends with an error says in its record that it failed, and why, unless the record of an
accepted answer cannot be stored; then the record has the status that the agent gave. -/
theorem run_error_reported {e : CrawlError} (he : (s.run r cancelled w).1.error = some e) :
    (s.run r cancelled w).1.record.ReportsFailure ∨
      e.IsStore ∧ (s.run r cancelled w).1.storedAt = none ∧
        ∃ t value facts given, s.Reaches r w t ∧ t.plan.mode = .direct ∧
          t.Takes cancelled value facts given ∧ (s.run r cancelled w).1.record = facts.stamp value ∧
          (s.run r cancelled w).1.record.status? = Record.status? ⟨given⟩ := by
  obtain ⟨j, opened, hopens⟩ | ⟨url, e', hrefused⟩ := opens_or_refused s r w
  · obtain ⟨t, hreaches, -⟩ | ⟨source, e', -, hrun⟩ := hopens.reaches_or_refused
    · obtain ⟨given, hresults⟩ := results_executed t cancelled
      rw [hreaches.run_eq] at he ⊢
      obtain hreports | ⟨hstored, hstore, hfile, hsettled⟩ := finish_error he
      · exact .inl hreports
      · obtain ⟨value, htakes, -, hvalue⟩ := taken_of_settle hresults hsettled
        have hmode := direct_of_isStored hstored
        have hsource : (t.executed cancelled).2.1.resultSource ≠ some .artifactSnapshot := by
          rw [htakes.source_direct hmode]
          decide
        refine .inr ⟨hstore, hfile, t, value, _, given, hreaches, hmode, htakes, ?_⟩
        rw [finish_record, hvalue, Provenance.status?_stamp]
        exact ⟨rfl, htakes.status?_eq hsource⟩
    · rw [hrun] at he ⊢
      obtain hreports | ⟨-, -, -, hsettled⟩ := finish_error he
      · exact .inl hreports
      · cases hsettled
  · obtain ⟨after, hrun⟩ := hrefused cancelled
    rw [hrun]
    exact .inl (Record.reportsFailure_failed _ _ e'.isBlankText_message)

/-- The agent fails in its only run. -/
theorem run_error_reported_failedAgent :
    ((single (constant "stub")).run (skillJob none).toRequest false
      (answeringWorld ⟨[], []⟩ (.error ⟨["exit code 1"]⟩))).1.error =
        some (.execution "stub" ⟨["exit code 1"]⟩) ∧
    ((single (constant "stub")).run (skillJob none).toRequest false
      (answeringWorld ⟨[], []⟩ (.error ⟨["exit code 1"]⟩))).1.record.ReportsFailure := by
  have he : ((single (constant "stub")).run (skillJob none).toRequest false
      (answeringWorld ⟨[], []⟩ (.error ⟨["exit code 1"]⟩))).1.error =
        some (.execution "stub" ⟨["exit code 1"]⟩) := by
    decide +kernel
  obtain hreports | ⟨hstore, -⟩ := run_error_reported he
  · exact ⟨he, hreports⟩
  · exact absurd hstore id

/-- An agent that puts a file in the place of the output directory while it works. -/
def occupying (answer : String) : Adapter Unit where
  name := "stub"
  supportsOutputLimits := false
  checkAuth _ scene := (.ok (), scene)
  run _ scene := (.ok answer, { scene with files := scene.files.place ["out"] (.file []) })

/-- An answer is accepted and cannot be stored: there is an error, and the status is that of the answer. -/
theorem run_error_unreported :
    ((single (occupying "\x7b\"status\":\"ok\"\x7d")).run (skillJob none).toRequest false emptyWorld).1.error =
      some (.artifact ⟨"out"⟩ (.store (.createParent ⟨"out"⟩ .alreadyExists))) ∧
    ((single (occupying "\x7b\"status\":\"ok\"\x7d")).run (skillJob none).toRequest false
      emptyWorld).1.record.status? = some "ok" := by
  decide +kernel

/-! ### Jobs without an error -/

/-- A job without an error hands back the record that it took, with its facts. The record reports a failure
exactly if an answer was taken, in direct mode or in place of a finished record, and the answer does so. -/
theorem run_isOk_isError (hok : (s.run r cancelled w).1.isOk = true) :
    ∃ t value facts given, s.Reaches r w t ∧ t.Takes cancelled value facts given ∧
      (s.run r cancelled w).1.record = facts.stamp value ∧
      ((s.run r cancelled w).1.record.isError = true ↔
        facts.resultSource = some .toolOutput ∧ Record.isError ⟨given⟩ = true) := by
  obtain ⟨t, value, facts, given, hreaches, htakes, hanswered, hrecord⟩ :=
    run_taken (Option.isNone_iff_eq_none.mp hok)
  refine ⟨t, value, facts, given, hreaches, htakes, hrecord, ?_⟩
  have hstatus : facts.resultSource = some .toolOutput → value.isError = Record.isError ⟨given⟩ := by
    intro hsource
    rw [Record.isError, htakes.status?_eq (by simp [hsource]), Record.isError]
  rw [hrecord, Record.isError, Provenance.status?_stamp, ← Record.isError]
  constructor
  · intro herror
    have hsource := hanswered herror
    exact ⟨hsource, (hstatus hsource).symm.trans herror⟩
  · rintro ⟨hsource, herror⟩
    exact (hstatus hsource).trans herror

/-- A finished record with the status ok is taken. -/
theorem run_isOk_isError_recorded :
    ((single (constant "stub")).run (skillJob (some "r1")).toRequest false
      (answeringWorld recordedFiles (.ok "done"))).1.isOk = true ∧
    ∃ t value facts given, (single (constant "stub")).Reaches (skillJob (some "r1")).toRequest
        (answeringWorld recordedFiles (.ok "done")) t ∧
      t.Takes false value facts given ∧
      ((single (constant "stub")).run (skillJob (some "r1")).toRequest false
        (answeringWorld recordedFiles (.ok "done"))).1.record = facts.stamp value ∧
      (((single (constant "stub")).run (skillJob (some "r1")).toRequest false
          (answeringWorld recordedFiles (.ok "done"))).1.record.isError = true ↔
        facts.resultSource = some .toolOutput ∧ Record.isError ⟨given⟩ = true) := by
  have hok : ((single (constant "stub")).run (skillJob (some "r1")).toRequest false
      (answeringWorld recordedFiles (.ok "done"))).1.isOk = true := by
    decide +kernel
  exact ⟨hok, run_isOk_isError hok⟩

/-- The agent answers that it was blocked, and the job has no error. -/
theorem run_isOk_blocked :
    ((single (constant "stub")).run (skillJob none).toRequest false (answeringWorld ⟨[], []⟩
      (.ok "\x7b\"status\":\"error\",\"error\":\"blocked\"\x7d"))).1.isOk = true ∧
    ((single (constant "stub")).run (skillJob none).toRequest false (answeringWorld ⟨[], []⟩
      (.ok "\x7b\"status\":\"error\",\"error\":\"blocked\"\x7d"))).1.record.isError = true := by
  decide +kernel

end ListingCrawl.Service
