import ListingCrawl.Proofs.Job.Direct
import ListingCrawl.Proofs.Job.FinalRecord

/-! How a job comes to its record. There are four ways to take one from what an agent left: its answer,
the record in the directory of the run, its answer in place of such a record, and the files of a snapshot.
For each it is said what is then known about the job and which fields the agent gave. Whatever is taken is
in canonical form; a job that takes nothing fails. -/

namespace ListingCrawl

namespace Ready

variable {α : Type}

/-! ### What is known -/

/-- The facts of a job that has looked for a finished record. -/
def recordFacts (t : Ready α) (cancelled : Bool) (source : Option ResultSource) : Provenance :=
  { t.facts cancelled with resultSource := source, toolError := error? (t.asked cancelled).1 }

/-- The facts of a job with a snapshot. The run is the one that the request names, else the pointer's. -/
def snapshotFacts (t : Ready α) (cancelled : Bool) (p : Artifact.SnapshotPointer) : Provenance :=
  { t.facts cancelled with
    runId := t.plan.mode.runId? <|> Text.trimmed? p.runId
    resultSource := some .artifactSnapshot }

/-! ### Taking a record -/

/-- A record that is taken from what the agent left, with the facts that are known then and the fields
that the agent gave for it. -/
inductive Takes (t : Ready α) (cancelled : Bool) : Record → Provenance → Fields → Prop where
  | answer {runs : Repair.Runs} {after : World α} {raw : String} {given : Fields} {value : Record}
      (mode : t.plan.mode = .direct)
      (asked : Asked t.adapter (t.checked cancelled).2 runs.all after)
      (stages : Repair.Stages t.adapter (t.invocation cancelled) (Service.acceptFor t.job.url) runs)
      (answer : runs.last.answer = .ok raw)
      (accepted : Recovery.acceptDirect runs.last.time t.job.url raw = .ok value)
      (object : Answer.statusObject raw = .ok given) :
    Takes t cancelled value (Service.acceptedFacts (t.facts cancelled) (runs.all.length - 1)) given
  | record {runId : String} {dir : Path} {given : Fields}
      (mode : t.plan.mode = .finalRecord runId dir)
      (file : (t.asked cancelled).2.files.exists? (Artifact.finalRecordFile dir) = true)
      (read : Artifact.finalRecord (t.asked cancelled).2.files dir = .ok ⟨given⟩) :
    Takes t cancelled (Record.normalize (t.asked cancelled).2.timestamp t.job.url ⟨given⟩)
      (t.recordFacts cancelled (some .artifactFinal)) given
  | answerInstead {runId : String} {dir : Path} {raw : String} {given : Fields} {value : Record}
      (mode : t.plan.mode = .finalRecord runId dir)
      (noFile : (t.asked cancelled).2.files.exists? (Artifact.finalRecordFile dir) = false)
      (answer : (t.asked cancelled).1 = .ok raw)
      (accepted : Recovery.acceptDirect (t.asked cancelled).2.timestamp t.job.url raw = .ok value)
      (object : Answer.statusObject raw = .ok given) :
    Takes t cancelled value (t.recordFacts cancelled (some .toolOutput)) given
  /-- The fields of a snapshot are the program's own. -/
  | snapshot {runId : Option String} {raw : String} {pointer : Artifact.SnapshotPointer} {r : Record}
      (mode : t.plan.mode = .snapshotPointer runId)
      (answer : (t.asked cancelled).1 = .ok raw)
      (named : Artifact.SnapshotPointer.ofAnswer (t.asked cancelled).2.files t.job.outDir runId raw =
        .ok pointer)
      (files : pointer.record (t.asked cancelled).2.files (t.asked cancelled).2.timestamp t.job.url =
        .ok r) :
    Takes t cancelled (Record.normalize (t.asked cancelled).2.timestamp t.job.url r)
      (t.snapshotFacts cancelled pointer) []

/-- What is known if no record can be taken. -/
inductive Misses (t : Ready α) (cancelled : Bool) : Provenance → Prop where
  | answer (mode : t.plan.mode = .direct) : Misses t cancelled (t.facts cancelled)
  | record {runId : String} {dir : Path} (mode : t.plan.mode = .finalRecord runId dir) :
    Misses t cancelled (t.recordFacts cancelled none)
  | pointer {runId : Option String} (mode : t.plan.mode = .snapshotPointer runId) :
    Misses t cancelled (t.facts cancelled)
  | snapshot {runId : Option String} {raw : String} {pointer : Artifact.SnapshotPointer}
      (mode : t.plan.mode = .snapshotPointer runId)
      (answer : (t.asked cancelled).1 = .ok raw)
      (named : Artifact.SnapshotPointer.ofAnswer (t.asked cancelled).2.files t.job.outDir runId raw =
        .ok pointer) :
    Misses t cancelled (t.snapshotFacts cancelled pointer)

/-- The result of a job by the record that is taken. A record from files that says that it failed is a
failure; an answer that says so is not. -/
inductive Results (t : Ready α) (cancelled : Bool) :
    Except Failure Record → Provenance → Fields → Prop where
  | taken {value : Record} {facts : Provenance} {given : Fields} (h : t.Takes cancelled value facts given)
      (answered : value.isError = true → facts.resultSource = some .toolOutput) :
    Results t cancelled (.ok value) facts given
  | failed {value : Record} {facts : Provenance} {given : Fields}
      (h : t.Takes cancelled value facts given) (error : CrawlError) (failed : value.isError = true) :
    Results t cancelled (.error ⟨error, some value⟩) facts given
  | missed {facts : Provenance} (h : t.Misses cancelled facts) (error : CrawlError) :
    Results t cancelled (.error ⟨error, none⟩) facts []

theorem Takes.normal {t : Ready α} {cancelled : Bool} {value : Record} {facts : Provenance}
    {given : Fields} (h : t.Takes cancelled value facts given) : value.Normal := by
  have haccepted : ∀ {now raw : String}, Recovery.acceptDirect now t.job.url raw = .ok value →
      value.Normal := by
    intro now raw haccept
    obtain ⟨fields, -, rfl, -⟩ := Recovery.acceptDirect_eq_ok.mp haccept
    exact Record.normal_normalize _ _ _
  cases h with
  | answer _ _ _ _ accepted _ => exact haccepted accepted
  | record => exact Record.normal_normalize _ _ _
  | answerInstead _ _ _ accepted _ => exact haccepted accepted
  | snapshot => exact Record.normal_normalize _ _ _

/-- Apart from snapshots, a record is the canonical form of what the agent gave. -/
theorem Takes.eq_normalize {t : Ready α} {cancelled : Bool} {value : Record} {facts : Provenance}
    {given : Fields} (h : t.Takes cancelled value facts given)
    (hsource : facts.resultSource ≠ some .artifactSnapshot) :
    ∃ now, value = Record.normalize now t.job.url ⟨given⟩ := by
  have haccepted : ∀ {now raw : String}, Recovery.acceptDirect now t.job.url raw = .ok value →
      Answer.statusObject raw = .ok given → ∃ now, value = Record.normalize now t.job.url ⟨given⟩ := by
    intro now raw haccept hobject
    obtain ⟨fields, hfields, rfl, -⟩ := Recovery.acceptDirect_eq_ok.mp haccept
    cases hobject.symm.trans hfields
    exact ⟨now, rfl⟩
  cases h with
  | answer _ _ _ _ accepted object => exact haccepted accepted object
  | record => exact ⟨_, rfl⟩
  | answerInstead _ _ _ accepted object => exact haccepted accepted object
  | snapshot => exact absurd rfl hsource

theorem Takes.status?_eq {t : Ready α} {cancelled : Bool} {value : Record} {facts : Provenance}
    {given : Fields} (h : t.Takes cancelled value facts given)
    (hsource : facts.resultSource ≠ some .artifactSnapshot) :
    value.status? = Record.status? ⟨given⟩ := by
  obtain ⟨now, rfl⟩ := h.eq_normalize hsource
  exact Record.status?_normalize now t.job.url ⟨given⟩

/-- In direct mode only an answer can be taken. -/
theorem Takes.source_direct {t : Ready α} {cancelled : Bool} {value : Record} {facts : Provenance}
    {given : Fields} (h : t.Takes cancelled value facts given) (hmode : t.plan.mode = .direct) :
    facts.resultSource = some .toolOutput := by
  cases h with
  | answer => rfl
  | record mode _ _ => cases hmode.symm.trans mode
  | answerInstead => rfl
  | snapshot mode _ _ _ => cases hmode.symm.trans mode

end Ready

namespace Service

variable {α : Type} {t : Ready α}

/-! ### Every mode takes its record in one of these ways -/

theorem results_runDirect (hmode : t.plan.mode = .direct) (cancelled : Bool) :
    let x := runDirect t.adapter (t.invocation cancelled) (t.facts cancelled) (t.checked cancelled).2
    ∃ given, t.Results cancelled x.1 x.2.1 given := by
  obtain ⟨runs, after, hasked, hstages, hlast⟩ :=
    runDirect_runs t.adapter (t.invocation cancelled) (t.facts cancelled) (t.checked cancelled).2
  obtain ⟨value, hv, hrun⟩ | ⟨-, e, -, hrun⟩ := hlast
  · obtain ⟨raw, hraw, haccept⟩ := Repair.verdict_eq_accepted.mp hv
    obtain ⟨given, hgiven, -, -⟩ := Recovery.acceptDirect_eq_ok.mp haccept
    rw [hrun]
    exact ⟨given, .taken (.answer hmode hasked hstages hraw haccept hgiven) fun _ => rfl⟩
  · rw [hrun]
    exact ⟨[], .missed (.answer hmode) e⟩

theorem results_ofRecord {runId : String} {dir : Path} (hmode : t.plan.mode = .finalRecord runId dir)
    {cancelled : Bool}
    (hfile : (t.asked cancelled).2.files.exists? (Artifact.finalRecordFile dir) = true)
    (run : Option AgentError) :
    let x := Recovery.ofRecord (t.asked cancelled).2.files (t.asked cancelled).2.timestamp t.job.url dir run
    ∃ given, t.Results cancelled x.1 (t.recordFacts cancelled x.2) given := by
  unfold Recovery.ofRecord
  cases hread : Artifact.finalRecord (t.asked cancelled).2.files dir with
  | error e => exact ⟨[], .missed (.record hmode) _⟩
  | ok r =>
    have htakes := Ready.Takes.record hmode hfile hread
    refine ⟨r.fields, ?_⟩
    dsimp only
    split
    · next herror => exact .failed htakes _ herror
    · next herror => exact .taken htakes fun h => absurd h herror

/-- Without a finished record, an answer is taken if it is accepted. -/
theorem results_answerInstead {runId : String} {dir : Path}
    (hmode : t.plan.mode = .finalRecord runId dir) {cancelled : Bool}
    (hfile : (t.asked cancelled).2.files.exists? (Artifact.finalRecordFile dir) = false) :
    let x := Recovery.finalRecord (t.asked cancelled).2.files (t.asked cancelled).2.timestamp t.job.url dir
      (t.asked cancelled).1
    ∃ given, t.Results cancelled x.1 (t.recordFacts cancelled x.2) given := by
  unfold Recovery.finalRecord
  rw [if_neg (by simp [hfile])]
  cases hanswer : (t.asked cancelled).1 with
  | error e => exact ⟨[], .missed (.record hmode) _⟩
  | ok raw =>
    simp only [Except.toOption, Option.bind_some]
    cases haccept : Recovery.acceptDirect (t.asked cancelled).2.timestamp t.job.url raw with
    | error why => exact ⟨[], .missed (.record hmode) _⟩
    | ok value =>
      obtain ⟨given, hgiven, -, -⟩ := Recovery.acceptDirect_eq_ok.mp haccept
      exact ⟨given, .taken (.answerInstead hmode hfile hanswer haccept hgiven) fun _ => rfl⟩

theorem runFinalRecord_eq (a : Adapter α) (i : Invocation) (dir : Path) (p : Provenance) (w : World α) :
    runFinalRecord a i dir p w =
      let asked := w.ask a i
      let x := Recovery.finalRecord asked.2.files asked.2.timestamp i.url dir asked.1
      (x.1, { p with resultSource := x.2, toolError := error? asked.1 }, asked.2) := by
  unfold runFinalRecord
  generalize w.ask a i = asked
  obtain ⟨answer, after⟩ := asked
  dsimp only
  generalize Recovery.finalRecord after.files after.timestamp i.url dir answer = x
  cases answer <;> rfl

theorem results_runFinalRecord {runId : String} {dir : Path}
    (hmode : t.plan.mode = .finalRecord runId dir) (cancelled : Bool) :
    let x := runFinalRecord t.adapter (t.invocation cancelled) dir (t.facts cancelled)
      (t.checked cancelled).2
    ∃ given, t.Results cancelled x.1 x.2.1 given := by
  rw [runFinalRecord_eq]
  cases hfile : (t.asked cancelled).2.files.exists? (Artifact.finalRecordFile dir) with
  | true =>
    have hrecord := Recovery.finalRecord_eq_ofRecord hfile (t.asked cancelled).2.timestamp t.job.url
      (t.asked cancelled).1
    obtain ⟨given, hresults⟩ := results_ofRecord hmode hfile (error? (t.asked cancelled).1)
    rw [← hrecord] at hresults
    exact ⟨given, hresults⟩
  | false => exact results_answerInstead hmode hfile

theorem results_snapshot {runId : Option String} (hmode : t.plan.mode = .snapshotPointer runId)
    {cancelled : Bool} {raw : String} (hanswer : (t.asked cancelled).1 = .ok raw)
    {pointer : Artifact.SnapshotPointer}
    (hnamed : Artifact.SnapshotPointer.ofAnswer (t.asked cancelled).2.files t.job.outDir runId raw =
      .ok pointer) :
    t.Results cancelled
      (Recovery.snapshot (t.asked cancelled).2.files (t.asked cancelled).2.timestamp t.job.url pointer)
      (t.snapshotFacts cancelled pointer) [] := by
  unfold Recovery.snapshot
  split
  · exact .missed (.snapshot hmode hanswer hnamed) _
  · next r hfiles =>
    have htakes := Ready.Takes.snapshot hmode hanswer hnamed hfiles
    dsimp only
    split
    · next herror => exact .failed htakes _ herror
    · next herror => exact .taken htakes fun h => absurd h herror

theorem results_runSnapshot {runId : Option String} (hmode : t.plan.mode = .snapshotPointer runId)
    (cancelled : Bool) :
    let x := runSnapshot t.adapter (t.invocation cancelled) t.job.outDir runId (t.facts cancelled)
      (t.checked cancelled).2
    t.Results cancelled x.1 x.2.1 [] := by
  have hasked : (t.checked cancelled).2.ask t.adapter (t.invocation cancelled) =
      ((t.asked cancelled).1, (t.asked cancelled).2) := rfl
  have hurl : (t.invocation cancelled).url = t.job.url := rfl
  rw [runSnapshot, hasked, hurl]
  cases hanswer : (t.asked cancelled).1 with
  | error e => exact .missed (.pointer hmode) _
  | ok raw =>
    dsimp only
    cases hnamed : Artifact.SnapshotPointer.ofAnswer (t.asked cancelled).2.files t.job.outDir runId
        raw with
    | error e => exact .missed (.pointer hmode) _
    | ok pointer =>
      dsimp only
      exact results_snapshot hmode hanswer hnamed

/-- A job that asks its agent ends with the result that its mode takes. -/
theorem results_executed (t : Ready α) (cancelled : Bool) :
    ∃ given, t.Results cancelled (t.executed cancelled).1 (t.executed cancelled).2.1 given := by
  rw [executed_eq]
  cases hmode : t.plan.mode with
  | direct => exact results_runDirect hmode cancelled
  | finalRecord runId dir => exact results_runFinalRecord hmode cancelled
  | snapshotPointer runId => exact ⟨[], results_runSnapshot hmode cancelled⟩

/-! ### How far jobs get -/

/-- The marketplace is known whatever else fails. -/
theorem prepare_source (s : Service α) (files : FileTree) (j : Job) :
    (s.prepare files j).1 = (Marketplace.ofUrl j.url).toOption := by
  unfold prepare
  cases Marketplace.ofUrl j.url <;> rfl

/-- The job that a request asks for, in the world in which its output directory has been made. -/
structure Opens (s : Service α) (r : Request) (w : World α) (j : Job) (opened : World α) : Prop where
  job : r.toJob s.env = .ok j
  made : openOutDir j w = (.ok (), opened)

theorem Reaches.opens {s : Service α} {r : Request} {w : World α} (h : s.Reaches r w t) :
    s.Opens r w t.job t.world :=
  ⟨h.job, h.opened⟩

theorem Opens.reaches_or_refused {s : Service α} {r : Request} {w : World α} {j : Job}
    {opened : World α} (h : s.Opens r w j opened) :
    (∃ t, s.Reaches r w t ∧ t.job = j) ∨
      ∃ source e, s.prepare opened.files j = (source, .error e) ∧
        ∀ cancelled, s.run r cancelled w = finish j none (.error ⟨.input e, none⟩)
          { Provenance.ofTool j.tool with source } opened := by
  have hrun : ∀ cancelled, s.run r cancelled w = s.runOpened j cancelled opened := by
    intro cancelled
    simp only [run, h.job, runJob, h.made]
  cases hprepared : s.prepare opened.files j with
  | mk source result =>
    cases result with
    | error e =>
      refine .inr ⟨source, e, rfl, fun cancelled => ?_⟩
      rw [hrun, runOpened, hprepared]
    | ok planned =>
      obtain ⟨plan, a⟩ := planned
      obtain ⟨m, rfl⟩ : ∃ m, source = some m := by
        unfold prepare at hprepared
        split at hprepared
        · cases hprepared
        · next m _ => exact ⟨m, (congrArg Prod.fst hprepared).symm⟩
      exact .inl ⟨⟨j, m, plan, a, opened⟩, ⟨h.job, h.made, hprepared⟩, rfl⟩

theorem opens_or_refused (s : Service α) (r : Request) (w : World α) :
    (∃ j opened, s.Opens r w j opened) ∨
      ∃ url e, ∀ cancelled, ∃ after, s.run r cancelled w = (refused after.timestamp url e, after) := by
  cases hjob : r.toJob s.env with
  | error e =>
    refine .inr ⟨Text.trim r.url, .input (.request e), fun cancelled => ⟨w, ?_⟩⟩
    simp only [run, hjob]
  | ok j =>
    cases hmade : openOutDir j w with
    | mk result opened =>
      cases result with
      | error e =>
        refine .inr ⟨j.url, e, fun cancelled => ⟨opened, ?_⟩⟩
        simp only [run, hjob, runJob, hmade]
      | ok => exact .inl ⟨j, opened, hjob, hmade⟩

end Service

end ListingCrawl
