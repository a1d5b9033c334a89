import ListingCrawl.Job.Run
import ListingCrawl.Proofs.Job.Message
import ListingCrawl.Proofs.Job.Provenance
import ListingCrawl.Proofs.Job.Repair
import ListingCrawl.Proofs.Job.Request
import ListingCrawl.Proofs.Time.Instant

/-! How a job ends. Whatever its agent, its files and its request do, the job ends with a record that
keeps the contract, and with one that reports a failure if anything failed before the record was stored.
What is stamped on the record afterwards are keys outside the contract. -/

namespace ListingCrawl

/-! ### Errors by what fails -/

/-- The error says that a record could not be stored. -/
def CrawlError.IsStore : CrawlError → Prop
  | .artifact _ (.store _) => True
  | _ => False

/-- The error is one of asking an agent, or of taking a record from what the agent left. -/
def CrawlError.IsRun : CrawlError → Prop
  | .input _ | .artifact _ (.createOutDir _) | .artifact _ (.store _) => False
  | _ => True

/-- Only storing itself fails with an error of storing. -/
def BeforeStore (result : Except Failure Record) : Prop :=
  ∀ failure, result = .error failure → ¬ failure.error.IsStore

/-- It fails, if at all, with what an agent did or left. -/
def FailsInRun (result : Except Failure Record) : Prop :=
  ∀ failure, result = .error failure → failure.error.IsRun

theorem CrawlError.IsRun.not_isStore {e : CrawlError} (h : e.IsRun) : ¬ e.IsStore := by
  unfold IsStore
  split
  · exact h.elim
  · exact id

theorem CrawlError.IsRun.ne_input {e : CrawlError} (h : e.IsRun) (cause : InputError) :
    e ≠ .input cause := by
  rintro rfl
  exact h

theorem FailsInRun.beforeStore {result : Except Failure Record} (h : FailsInRun result) :
    BeforeStore result :=
  fun failure hf => (h failure hf).not_isStore

theorem Recovery.failsInRun_finalRecord (files : FileTree) (now url : String) (dir : Path)
    (answer : Except AgentError String) :
    FailsInRun (Recovery.finalRecord files now url dir answer).1 := by
  intro failure h
  unfold finalRecord at h
  dsimp only at h
  split at h
  · split at h
    · cases h
      trivial
    · dsimp only at h
      split at h
      · cases h
        trivial
      · cases h
  · split at h
    · cases h
    · cases h
      trivial

theorem Recovery.failsInRun_snapshot (files : FileTree) (now url : String)
    (p : Artifact.SnapshotPointer) : FailsInRun (Recovery.snapshot files now url p) := by
  intro failure h
  unfold snapshot at h
  split at h
  · next e _ =>
    cases h
    cases e <;> trivial
  · dsimp only at h
    split at h
    · cases h
      trivial
    · cases h

namespace Service

variable {α : Type}

theorem failsInRun_runDirect (a : Adapter α) (i : Invocation) (p : Provenance) (w : World α) :
    FailsInRun (runDirect a i p w).1 := by
  intro failure h
  unfold runDirect at h
  obtain ⟨r, outcome, after, hrun, -, -, hc⟩ :=
    Repair.run_stages a i (fun now raw => Recovery.acceptDirect now i.url raw) w
  rw [hrun] at h
  cases outcome with
  | ok repaired => cases h
  | error e =>
    cases h
    unfold Repair.Concludes at hc
    split at hc
    · obtain ⟨context, hc⟩ := hc
      cases hc
      trivial
    · cases hc
    · obtain ⟨first, hc⟩ := hc
      cases hc
      trivial
    · obtain ⟨first, hc⟩ := hc
      cases hc
      trivial

theorem failsInRun_runSnapshot (a : Adapter α) (i : Invocation) (outDir : Path)
    (runId : Option String) (p : Provenance) (w : World α) :
    FailsInRun (runSnapshot a i outDir runId p w).1 := by
  unfold runSnapshot
  split
  · rintro failure ⟨⟩
    trivial
  · split
    · rintro failure ⟨⟩
      trivial
    · exact Recovery.failsInRun_snapshot _ _ _ _

theorem failsInRun_execute (a : Adapter α) (j : Job) (plan : Plan) (cancelled : Bool)
    (p : Provenance) (w : World α) : FailsInRun (execute a j plan cancelled p w).1 := by
  unfold execute
  dsimp only
  split
  · exact failsInRun_runDirect a _ _ _
  · exact Recovery.failsInRun_finalRecord _ _ _ _ _
  · exact failsInRun_runSnapshot a _ _ _ _ _

/-! ### Settling -/

theorem conforms_failed_at (t : Time.Instant) {url message : String}
    (hurl : Text.isBlankText url = false) (hmessage : Text.isBlankText message = false) :
    (Record.failed t.rfc3339 url message).Conforms := by
  apply Record.conforms_failed hurl t.isBlankText_rfc3339 _ hmessage
  rw [t.trim_rfc3339]
  exact t.isRfc3339_rfc3339

/-- Filling in an error that is missing makes a failed record report its failure. -/
theorem reportsFailure_error {r : Record} (e : CrawlError) (h : r.text? "status" = some "error") :
    (if Listing.isMissing (r.text? "error") then r.insertText "error" e.message else r).ReportsFailure := by
  split
  · refine ⟨?_, e.message, r.text?_insertText_self _ _, e.isBlankText_message⟩
    rw [Record.insertText, Record.text?_insert_of_ne (by decide), h]
  · next hmissing => exact ⟨h, Listing.isMissing_eq_false.mp (Bool.eq_false_iff.mpr hmissing)⟩

theorem status_url {r : Record} (h : r.text? "status" = some "error") (c : Prop) [Decidable c]
    (url : String) : (if c then r.insertText "url" url else r).text? "status" = some "error" := by
  split
  · rw [Record.insertText, Record.text?_insert_of_ne (by decide), h]
  · exact h

theorem reportsFailure_captured {r : Record} (h : r.ReportsFailure) (c : Prop) [Decidable c]
    (now : String) : (if c then r else r.insertText "captured_at" now).ReportsFailure := by
  split
  · exact h
  · exact h.insert _ (by decide) (by decide)

theorem completed_reportsFailure (now url : String) (e : CrawlError) (r : Record) :
    (completed now url e r).ReportsFailure := by
  unfold completed
  dsimp only
  split
  · have hstatus := r.text?_insertText_self "status" Status.error.name
    exact reportsFailure_captured (reportsFailure_error e (status_url hstatus _ url)) _ now
  · exact Record.reportsFailure_failed now url e.isBlankText_message

theorem completed_conforms (t : Time.Instant) {url : String} (hurl : Text.isBlankText url = false)
    (e : CrawlError) (r : Record) : (completed t.rfc3339 url e r).Conforms := by
  unfold completed
  dsimp only
  split
  · next l h => exact ⟨l, h⟩
  · exact conforms_failed_at t hurl e.isBlankText_message

/-- A settled result keeps the contract. -/
theorem settle_conforms (t : Time.Instant) {url : String} (hurl : Text.isBlankText url = false)
    (result : Except Failure Record) : (settle t.rfc3339 url result).1.Conforms := by
  cases result with
  | ok r =>
    rw [settle]
    dsimp only
    split
    · next l h => exact ⟨l, h⟩
    · next violations h =>
      exact conforms_failed_at t hurl (CrawlError.contract violations none).isBlankText_message
  | error failure =>
    obtain ⟨e, r⟩ := failure
    cases r with
    | some r => exact completed_conforms t hurl e r
    | none => exact conforms_failed_at t hurl e.isBlankText_message

/-- A settled failure reports itself. -/
theorem settle_reportsFailure {now url : String} {result : Except Failure Record} {e : CrawlError}
    (h : (settle now url result).2 = some e) : (settle now url result).1.ReportsFailure := by
  cases result with
  | ok r =>
    rw [settle] at h ⊢
    dsimp only at h ⊢
    split at h
    · cases h
    · next violations _ =>
      exact Record.reportsFailure_failed _ _ (CrawlError.contract violations none).isBlankText_message
  | error failure =>
    obtain ⟨error, r⟩ := failure
    cases r with
    | some r => exact completed_reportsFailure now url error r
    | none => exact Record.reportsFailure_failed _ _ error.isBlankText_message

/-- Without an error, the result was canonicalized and nothing else. -/
theorem settle_eq_none {now url : String} {result : Except Failure Record}
    (h : (settle now url result).2 = none) :
    ∃ r, result = .ok r ∧ (settle now url result).1 = r.normalize now url := by
  cases result with
  | ok r =>
    refine ⟨r, rfl, ?_⟩
    rw [settle] at h ⊢
    dsimp only at h ⊢
    split at h
    · rfl
    · cases h
  | error failure =>
    obtain ⟨error, r⟩ := failure
    cases r <;> cases h

/-- What holds of the error of a failure, and of one that breaks the contract, holds of the error that
is left at the end. -/
theorem settle_error {P : CrawlError → Prop} {now url : String} {result : Except Failure Record}
    (hfailure : ∀ failure, result = .error failure → P failure.error)
    (hcontract : ∀ violations, P (.contract violations none)) {e : CrawlError}
    (he : (settle now url result).2 = some e) : P e := by
  cases result with
  | ok r =>
    rw [settle] at he
    dsimp only at he
    split at he
    · cases he
    · cases he
      exact hcontract _
  | error failure =>
    obtain ⟨error, r⟩ := failure
    have herror := hfailure ⟨error, r⟩ rfl
    cases r with
    | some r =>
      cases he
      exact herror
    | none =>
      cases he
      exact herror

/-! ### The end of a job -/

/-- A job hands back an outcome as it is, or stores it first. -/
inductive Ends (before : Outcome) : Outcome × World α → Prop where
  | kept (w : World α) : Ends before (before, w)
  | stored (j : Job) (source : Option Marketplace) (w : World α) : Ends before (store j source before w)

/-- Storing changes neither the record nor an error that is there. -/
theorem Ends.record_eq {before : Outcome} {final : Outcome × World α} (h : Ends before final) :
    final.1.record = before.record := by
  cases h with
  | kept w => rfl
  | stored j source w =>
    unfold store
    split <;> rfl

/-- An error that is there is kept. -/
theorem Ends.error_eq {before : Outcome} {final : Outcome × World α} (h : Ends before final)
    {e : CrawlError} (he : before.error = some e) : final.1.error = some e := by
  cases h with
  | kept w => exact he
  | stored j source w =>
    unfold store
    split
    · exact he
    · simp [he]

/-- An error at the end was there before, or it is that of storing an outcome without error. -/
theorem Ends.error_cases {before : Outcome} {final : Outcome × World α} (h : Ends before final)
    {e : CrawlError} (he : final.1.error = some e) : before.error = some e ∨
      before.error = none ∧ e.IsStore ∧ ∃ j source w, final = store j source before w := by
  cases h with
  | kept w => exact .inl he
  | stored j source w =>
    cases hbefore : before.error with
    | some cause =>
      left
      unfold store at he
      split at he
      · rw [← hbefore]
        exact he
      · simpa [hbefore] using he
    | none =>
      refine .inr ⟨rfl, ?_, j, source, w, rfl⟩
      unfold store at he
      split at he
      · rw [hbefore] at he
        cases he
      · simp only [hbefore, Option.orElse_eq_orElse, Option.orElse_eq_or, Option.none_or,
          Option.some.injEq] at he
        rw [← he]
        trivial

/-- An outcome that fails when it is stored names no file. -/
theorem store_storedAt {j : Job} {source : Option Marketplace} {before : Outcome} {w : World α}
    {e : CrawlError} (hbefore : before.error = none) (hfile : before.storedAt = none)
    (he : (store j source before w).1.error = some e) :
    (store j source before w).1.storedAt = none := by
  unfold store at he ⊢
  split at he
  · rw [hbefore] at he
    cases he
  · exact hfile

/-- What holds of an outcome that is not stored yet. -/
structure Sound (o : Outcome) : Prop where
  conforms : o.record.Conforms
  reports : o.error.isSome = true → o.record.ReportsFailure
  beforeStore : ∀ e, o.error = some e → ¬ e.IsStore

theorem sound_refused (t : Time.Instant) {url : String} (hurl : Text.isBlankText url = false)
    {e : CrawlError} (he : ¬ e.IsStore) : Sound (refused t.rfc3339 url e) where
  conforms := conforms_failed_at t hurl e.isBlankText_message
  reports _ := Record.reportsFailure_failed _ _ e.isBlankText_message
  beforeStore := by
    rintro _ ⟨⟩
    exact he

/-- What a job ends with before it is stored. -/
def unstored (now : String) (j : Job) (result : Except Failure Record) (p : Provenance) : Outcome :=
  ⟨none, p.stamp (settle now j.url result).1, (settle now j.url result).2⟩

theorem ends_finish (j : Job) (mode : Option Mode) (result : Except Failure Record) (p : Provenance)
    (w : World α) : Ends (unstored w.timestamp j result p) (finish j mode result p w) := by
  unfold finish
  dsimp only
  split
  · exact .stored j p.source w
  · exact .kept w

theorem finish_of_not_isStored {mode : Option Mode} (h : isStored mode = false) (j : Job)
    (result : Except Failure Record) (p : Provenance) (w : World α) :
    finish j mode result p w = (unstored w.timestamp j result p, w) := by
  rw [finish, h]
  rfl

theorem finish_of_isStored {mode : Option Mode} (h : isStored mode = true) (j : Job)
    (result : Except Failure Record) (p : Provenance) (w : World α) :
    finish j mode result p w = store j p.source (unstored w.timestamp j result p) w := by
  unfold finish
  dsimp only
  rw [if_pos h, unstored]

theorem finish_record (j : Job) (mode : Option Mode) (result : Except Failure Record) (p : Provenance)
    (w : World α) :
    (finish j mode result p w).1.record = p.stamp (settle w.timestamp j.url result).1 :=
  (ends_finish j mode result p w).record_eq

theorem settle_of_finish {j : Job} {mode : Option Mode} {result : Except Failure Record}
    {p : Provenance} {w : World α} (h : (finish j mode result p w).1.error = none) :
    (settle w.timestamp j.url result).2 = none := by
  cases he : (settle w.timestamp j.url result).2 with
  | none => rfl
  | some e =>
    have hkept := (ends_finish j mode result p w).error_eq he
    rw [h] at hkept
    cases hkept

/-- A job that ends with an error reports it, unless the error is that of storing a record without one. -/
theorem finish_error {j : Job} {mode : Option Mode} {result : Except Failure Record} {p : Provenance}
    {w : World α} {e : CrawlError} (he : (finish j mode result p w).1.error = some e) :
    (finish j mode result p w).1.record.ReportsFailure ∨
      isStored mode = true ∧ e.IsStore ∧ (finish j mode result p w).1.storedAt = none ∧
        (settle w.timestamp j.url result).2 = none := by
  rw [finish_record]
  cases hsettled : (settle w.timestamp j.url result).2 with
  | some error => exact .inl (p.reportsFailure_stamp (settle_reportsFailure hsettled))
  | none =>
    right
    obtain hbefore | ⟨hnone, hstore, j', source, w', hfinal⟩ :=
      (ends_finish j mode result p w).error_cases he
    · rw [unstored, hsettled] at hbefore
      cases hbefore
    · refine ⟨?_, hstore, ?_, rfl⟩
      · by_contra hmode
        rw [finish_of_not_isStored (Bool.eq_false_iff.mpr hmode), hnone] at he
        cases he
      · rw [hfinal] at he ⊢
        exact store_storedAt hnone rfl he

theorem finish_ends {j : Job} (hurl : Text.isBlankText j.url = false) (mode : Option Mode)
    {result : Except Failure Record} (hresult : BeforeStore result) (p : Provenance) (w : World α) :
    ∃ before, Ends before (finish j mode result p w) ∧ Sound before := by
  refine ⟨unstored w.timestamp j result p, ends_finish j mode result p w,
    p.conforms_stamp (settle_conforms w.now hurl result), fun h => ?_,
    fun _ => settle_error (P := fun e => ¬ e.IsStore) hresult fun _ => id⟩
  obtain ⟨e, he⟩ := Option.isSome_iff_exists.mp h
  exact p.reportsFailure_stamp (settle_reportsFailure he)

theorem runOpened_ends (s : Service α) {j : Job} (hurl : Text.isBlankText j.url = false)
    (cancelled : Bool) (w : World α) :
    ∃ before, Ends before (s.runOpened j cancelled w) ∧ Sound before := by
  unfold runOpened
  dsimp only
  split
  · refine finish_ends hurl _ ?_ _ _
    rintro failure ⟨⟩
    exact id
  · exact finish_ends hurl _ (failsInRun_execute _ _ _ _ _ _).beforeStore _ _

theorem openOutDir_eq_error {j : Job} {w after : World α} {e : CrawlError}
    (h : openOutDir j w = (.error e, after)) : ∃ cause, e = .artifact j.outDir (.createOutDir cause) := by
  unfold openOutDir at h
  dsimp only at h
  cases hmade : (w.files.makeDirectories j.outDir).1 with
  | ok => simp [hmade, Except.mapError] at h
  | error cause =>
    simp only [hmade, Except.mapError, Prod.mk.injEq, Except.error.injEq] at h
    exact ⟨cause, h.1.symm⟩

theorem runJob_ends (s : Service α) {j : Job} (hurl : Text.isBlankText j.url = false)
    (cancelled : Bool) (w : World α) :
    ∃ before, Ends before (s.runJob j cancelled w) ∧ Sound before := by
  unfold runJob
  split
  · next e after h =>
    obtain ⟨cause, rfl⟩ := openOutDir_eq_error h
    exact ⟨_, .kept after, sound_refused after.now hurl id⟩
  · exact s.runOpened_ends hurl cancelled _

theorem run_ends (s : Service α) {r : Request} (hurl : Text.isBlankText r.url = false)
    (cancelled : Bool) (w : World α) :
    ∃ before, Ends before (s.run r cancelled w) ∧ Sound before := by
  have htrim : Text.isBlankText (Text.trim r.url) = false := by rw [Text.isBlankText_trim, hurl]
  unfold run
  split
  · exact ⟨_, .kept w, sound_refused w.now htrim id⟩
  · next j hj =>
    rw [← Request.url_of_toJob hj] at htrim
    exact s.runJob_ends htrim cancelled w

/-- Every job for a request that names a page ends with a record that keeps the contract. The record
reports the failure of the job, unless nothing failed until the record was to be stored. -/
theorem run_keeps_contract (s : Service α) (r : Request) (cancelled : Bool) (w : World α)
    (hurl : Text.isBlankText r.url = false) :
    (∃ l, (s.run r cancelled w).1.record.validate = .ok l) ∧
      (∀ e, (s.run r cancelled w).1.error = some e → ¬ e.IsStore →
        (s.run r cancelled w).1.record.ReportsFailure) ∧
      ∀ e, (s.run r cancelled w).1.error = some e → e.IsStore →
        ∃ before j source w', before.error = none ∧
          s.run r cancelled w = store j source before w' := by
  obtain ⟨before, hend, hsound⟩ := s.run_ends hurl cancelled w
  rw [hend.record_eq]
  refine ⟨hsound.conforms, fun e he hstore => ?_, fun e he hstore => ?_⟩
  · obtain hbefore | ⟨-, his, -⟩ := hend.error_cases he
    · exact hsound.reports (Option.isSome_of_mem hbefore)
    · exact absurd his hstore
  · obtain hbefore | ⟨hnone, -, j, source, w', hfinal⟩ := hend.error_cases he
    · exact absurd hstore (hsound.beforeStore e hbefore)
    · exact ⟨before, j, source, w', hnone, hfinal⟩

/-- A world without files, at the beginning of a year. -/
def emptyWorld : World Unit where
  files := ⟨[], []⟩
  now := { time := ⟨2026, 1, 1, 0, 0, 0⟩, milli := 0 }
  agents := ()
  fresh := 0
  calls := []

/-- A request without an output directory, at a service without agents. -/
theorem run_keeps_contract_noOutDir :
    Text.isBlankText "page" = false ∧ ((⟨.empty, fun _ => none⟩ : Service Unit).run
      (.ofUrl "page" ⟨""⟩) false emptyWorld).1.record.ReportsFailure := by
  have hurl : Text.isBlankText "page" = false := by decide
  obtain ⟨-, hreports, -⟩ :=
    run_keeps_contract ⟨.empty, fun _ => none⟩ (.ofUrl "page" ⟨""⟩) false emptyWorld hurl
  exact ⟨hurl, hreports (.input (.request .noOutDir)) rfl id⟩

end Service

end ListingCrawl
