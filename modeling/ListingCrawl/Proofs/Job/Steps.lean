import Mathlib.Logic.Function.Iterate
import ListingCrawl.Proofs.Job.Course

/-! Jobs step by step. Between two steps of a job the rest of the world may move on, so that jobs may take
turns in one world. Looking for a finished record and reading it are steps of their own. A job that takes
its steps alone, one after the other, comes to the same end as one that is run. -/

namespace ListingCrawl

namespace Recovery

/-- The result of a run that left no finished record: its answer, if that is accepted. -/
def withoutRecord (now url : String) (dir : Path) (answer : Except AgentError String) :
    Except Failure Record × Option ResultSource :=
  match answer.toOption.bind fun raw => (acceptDirect now url raw).toOption with
  | some r => (.ok r, some .toolOutput)
  | none =>
    (.error ⟨.artifact (Artifact.finalRecordFile dir) (.noFinalRecord (error? answer)), none⟩, none)

/-- The result of a run by whether there was a finished record when it was looked for. -/
def taken (found : Bool) (files : FileTree) (now url : String) (dir : Path)
    (answer : Except AgentError String) : Except Failure Record × Option ResultSource :=
  if found then ofRecord files now url dir (error? answer) else withoutRecord now url dir answer

theorem finalRecord_eq_taken (files : FileTree) (now url : String) (dir : Path)
    (answer : Except AgentError String) : finalRecord files now url dir answer =
      taken (files.exists? (Artifact.finalRecordFile dir)) files now url dir answer := by
  cases hexists : files.exists? (Artifact.finalRecordFile dir) with
  | true => exact finalRecord_eq_ofRecord hexists now url answer
  | false =>
    unfold finalRecord
    rw [if_neg (by simp [hexists])]
    cases answer <;> rfl

end Recovery

/-- How far a job has come, with what it knows by then. -/
inductive Stage (α : Type) where
  | start
  | opened (j : Job)
  | planned (j : Job) (plan : Plan) (a : Adapter α) (p : Provenance)
  | checked (j : Job) (plan : Plan) (a : Adapter α) (p : Provenance)
  | answered (j : Job) (mode : Mode) (dir : Path) (answer : Except AgentError String) (p : Provenance)
  | looked (j : Job) (mode : Mode) (dir : Path) (answer : Except AgentError String) (p : Provenance)
    (found : Bool)
  | taken (j : Job) (mode : Option Mode) (result : Except Failure Record) (p : Provenance)
  | done (o : Outcome)

/-- The world with this reading of the clock. -/
def World.timed {α : Type} (w : World α) (now : Time.Instant) : World α :=
  { w with now }

namespace Service

variable {α : Type}

/-- One step of a job. -/
def step (s : Service α) (r : Request) (cancelled : Bool) : Stage α × World α → Stage α × World α
  | (.start, w) =>
    match r.toJob s.env with
    | .error e => (.done (refused w.timestamp (Text.trim r.url) (.input (.request e))), w)
    | .ok j =>
      match openOutDir j w with
      | (.error e, w) => (.done (refused w.timestamp j.url e), w)
      | (.ok (), w) => (.opened j, w)
  | (.opened j, w) =>
    match s.prepare w.files j with
    | (source, .error e) =>
      (.taken j none (.error ⟨.input e, none⟩) { Provenance.ofTool j.tool with source }, w)
    | (source, .ok (plan, a)) =>
      (.planned j plan a { Provenance.ofTool j.tool with source, runId := plan.mode.runId? }, w)
  | (.planned j plan a p, w) => (.checked j plan a (probe a cancelled p w).1, (probe a cancelled p w).2)
  | (.checked j plan a p, w) =>
    let i := invocation j plan.prompt cancelled
    match plan.mode with
    | .direct =>
      let (result, p, w) := runDirect a i p w
      (.taken j (some .direct) result p, w)
    | .finalRecord runId dir =>
      (.answered j (.finalRecord runId dir) dir (w.ask a i).1 p, (w.ask a i).2)
    | .snapshotPointer runId =>
      let (result, p, w) := runSnapshot a i j.outDir runId p w
      (.taken j (some (.snapshotPointer runId)) result p, w)
  | (.answered j mode dir answer p, w) =>
    (.looked j mode dir answer p (w.files.exists? (Artifact.finalRecordFile dir)), w)
  | (.looked j mode dir answer p found, w) =>
    let x := Recovery.taken found w.files w.timestamp j.url dir answer
    (.taken j (some mode) x.1 { p with resultSource := x.2, toolError := error? answer }, w)
  | (.taken j mode result p, w) => (.done (finish j mode result p w).1, (finish j mode result p w).2)
  | (.done o, w) => (.done o, w)

/-- So many steps of a job. -/
def steps (s : Service α) (r : Request) (cancelled : Bool) (n : Nat) :
    Stage α × World α → Stage α × World α :=
  (s.step r cancelled)^[n]

variable {s : Service α} {r : Request} {cancelled : Bool}

theorem steps_succ (n : Nat) (x : Stage α × World α) :
    s.steps r cancelled (n + 1) x = s.steps r cancelled n (s.step r cancelled x) :=
  Function.iterate_succ_apply _ n x

theorem steps_done (n : Nat) (o : Outcome) (w : World α) :
    s.steps r cancelled n (.done o, w) = (.done o, w) := by
  induction n with
  | zero => rfl
  | succ n ih => rw [steps_succ, step, ih]

theorem steps_taken (n : Nat) (j : Job) (mode : Option Mode) (result : Except Failure Record)
    (p : Provenance) (w : World α) : s.steps r cancelled (n + 1) (.taken j mode result p, w) =
      (.done (finish j mode result p w).1, (finish j mode result p w).2) := by
  rw [steps_succ, step, steps_done]

/-- The steps from the check of the agent on are those of asking it as the plan says. -/
theorem steps_planned (j : Job) (plan : Plan) (a : Adapter α) (p : Provenance) (w : World α) :
    s.steps r cancelled 5 (.planned j plan a p, w) =
      let x := execute a j plan cancelled p w
      (.done (finish j (some plan.mode) x.1 x.2.1 x.2.2).1,
        (finish j (some plan.mode) x.1 x.2.1 x.2.2).2) := by
  rw [steps_succ, step, steps_succ, step, execute]
  dsimp only
  cases plan.mode with
  | direct => exact steps_taken ..
  | snapshotPointer runId => exact steps_taken ..
  | finalRecord runId dir =>
    dsimp only
    rw [steps_succ, step, steps_succ, step, steps_taken, runFinalRecord_eq, ← Recovery.finalRecord_eq_taken]
    rfl

/-- A job that takes its steps alone ends as it does when it is run. -/
theorem steps_eq_run (s : Service α) (r : Request) (cancelled : Bool) (w : World α) :
    s.steps r cancelled 7 (.start, w) = (.done (s.run r cancelled w).1, (s.run r cancelled w).2) := by
  rw [steps_succ, step, run]
  cases r.toJob s.env with
  | error e => exact steps_done ..
  | ok j =>
    dsimp only
    rw [runJob]
    generalize openOutDir j w = made
    obtain ⟨result, opened⟩ := made
    cases result with
    | error e => exact steps_done ..
    | ok =>
      dsimp only
      rw [steps_succ, step, runOpened]
      generalize s.prepare opened.files j = prepared
      obtain ⟨source, result⟩ := prepared
      cases result with
      | error e => exact steps_taken ..
      | ok planned => exact steps_planned ..

/-! ### By the clock -/

/-- One step of a job at a time that the clock shows. -/
def stepAt (s : Service α) (r : Request) (cancelled : Bool) (x : Stage α × World α)
    (now : Time.Instant) : Stage α × World α :=
  s.step r cancelled (x.1, x.2.timed now)

/-- Steps of a job at these times. -/
def stepsAt (s : Service α) (r : Request) (cancelled : Bool) (x : Stage α × World α)
    (times : List Time.Instant) : Stage α × World α :=
  times.foldl (s.stepAt r cancelled) x

/-- What the clock shows before each of the first steps of a job that is alone. -/
def clock (s : Service α) (r : Request) (cancelled : Bool) (w : World α) (n : Nat) : List Time.Instant :=
  (List.range n).map fun k => (s.steps r cancelled k (.start, w)).2.now

theorem stepsAt_clock (s : Service α) (r : Request) (cancelled : Bool) (w : World α) (n : Nat) :
    s.stepsAt r cancelled (.start, w) (s.clock r cancelled w n) = s.steps r cancelled n (.start, w) := by
  induction n with
  | zero => rfl
  | succ n ih =>
    rw [clock, List.range_succ, List.map_append, stepsAt, List.foldl_append]
    change (s.stepsAt r cancelled (.start, w) (s.clock r cancelled w n) |> fun x =>
      s.stepAt r cancelled x (s.steps r cancelled n (.start, w)).2.now) = _
    rw [ih, steps, steps, Function.iterate_succ_apply']
    rfl

theorem stepsAt_done (o : Outcome) (w : World α) (times : List Time.Instant) :
    (s.stepsAt r cancelled (.done o, w) times).1 = .done o := by
  induction times generalizing w with
  | nil => rfl
  | cons now times ih => exact ih _

/-- At the times that the clock shows when it is alone, a job ends as it does when it is run. -/
theorem stepsAt_eq_run {w : World α} {times : List Time.Instant}
    (h : s.clock r cancelled w 7 <+: times) :
    (s.stepsAt r cancelled (.start, w) times).1 = .done (s.run r cancelled w).1 := by
  obtain ⟨rest, rfl⟩ := h
  have hrun := s.stepsAt_clock r cancelled w 7
  rw [steps_eq_run] at hrun
  rw [stepsAt, List.foldl_append, ← stepsAt, ← stepsAt, hrun, stepsAt_done]

end Service

end ListingCrawl
