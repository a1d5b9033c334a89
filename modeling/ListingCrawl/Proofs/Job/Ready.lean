import Mathlib.Data.List.Basic
import ListingCrawl.Job.Run
import ListingCrawl.Proofs.Except
import ListingCrawl.Proofs.Job.Outcome

/-! Jobs that are ready to ask their agent. All that is decided before is collected in one place, so that
the rest of a job is the check of the agent's credentials, the asking that the mode calls for, and the
end. What is decided depends on the request, the service and the files alone. -/

namespace ListingCrawl

/-- What is decided about a job before its agent is asked. -/
structure Ready (α : Type) where
  job : Job
  source : Marketplace
  plan : Plan
  adapter : Adapter α
  /-- The world once the output directory exists. -/
  world : World α

namespace Ready

variable {α : Type}

/-- Checks the credentials of the agent. -/
def checked (t : Ready α) (cancelled : Bool) : Except AgentError Unit × World α :=
  t.world.check t.adapter cancelled

/-- What the agent is asked first. -/
def invocation (t : Ready α) (cancelled : Bool) : Invocation :=
  Service.invocation t.job t.plan.prompt cancelled

/-- Asks the agent once. -/
def asked (t : Ready α) (cancelled : Bool) : Except AgentError String × World α :=
  (t.checked cancelled).2.ask t.adapter (t.invocation cancelled)

/-- The facts that are known when the agent is asked. -/
def facts (t : Ready α) (cancelled : Bool) : Provenance :=
  { Provenance.ofTool t.job.tool with
    source := some t.source
    runId := t.plan.mode.runId?
    authCheckError := error? (t.checked cancelled).1 }

/-- What comes of asking the agent: the result of the job, what is then known about it, and the world. -/
def executed (t : Ready α) (cancelled : Bool) : Except Failure Record × Provenance × World α :=
  Service.execute t.adapter t.job t.plan cancelled
    { Provenance.ofTool t.job.tool with source := some t.source, runId := t.plan.mode.runId? } t.world

end Ready

/-- The mode of a plan is direct, or that of a skill. -/
theorem Plan.mode_of_ofJob {files : FileTree} {j : Job} {m : Marketplace} {plan : Plan}
    (h : Plan.ofJob files j m = .ok plan) :
    plan.mode = .direct ∨ ∃ skill, plan.mode = modeOf skill j := by
  unfold Plan.ofJob at h
  split at h
  · split at h
    · cases h
    · cases h
      exact .inl rfl
  · split at h
    · cases h
    · next skill _ =>
      cases h
      exact .inr ⟨skill, rfl⟩

theorem Plan.finalRecord_of_ofJob {files : FileTree} {j : Job} {m : Marketplace} {plan : Plan}
    (h : Plan.ofJob files j m = .ok plan) {runId : String} {dir : Path}
    (hmode : plan.mode = .finalRecord runId dir) :
    j.runId = some runId ∧ dir = Files.artifactDir j.outDir runId := by
  obtain hdirect | ⟨skill, hskill⟩ := mode_of_ofJob h
  · cases hmode.symm.trans hdirect
  · rw [hmode, modeOf] at hskill
    split at hskill
    · next hrun =>
      cases hskill
      exact ⟨hrun, rfl⟩
    · cases hskill
    · cases hskill

/-- The run of a snapshot is the one that the request names. -/
theorem Plan.snapshotPointer_of_ofJob {files : FileTree} {j : Job} {m : Marketplace} {plan : Plan}
    (h : Plan.ofJob files j m = .ok plan) {asked : Option String}
    (hmode : plan.mode = .snapshotPointer asked) : asked = j.runId := by
  obtain hdirect | ⟨skill, hskill⟩ := mode_of_ofJob h
  · cases hmode.symm.trans hdirect
  · rw [hmode, modeOf] at hskill
    split at hskill
    · cases hskill
    · cases hskill
    · cases hskill
      rfl

namespace Service

variable {α : Type}

/-- The request gets this far at the service. -/
structure Reaches (s : Service α) (r : Request) (w : World α) (t : Ready α) : Prop where
  job : r.toJob s.env = .ok t.job
  opened : openOutDir t.job w = (.ok (), t.world)
  prepared : s.prepare t.world.files t.job = (some t.source, .ok (t.plan, t.adapter))

theorem probe_eq (a : Adapter α) (cancelled : Bool) {p : Provenance} (w : World α)
    (h : p.authCheckError = none) : probe a cancelled p w =
      ({ p with authCheckError := error? (w.check a cancelled).1 }, (w.check a cancelled).2) := by
  rw [probe]
  obtain ⟨result, after⟩ := w.check a cancelled
  cases result with
  | error e => rfl
  | ok => rw [error?_ok, ← h]

/-- The agent is asked as the mode says, once its credentials are checked. -/
theorem executed_eq (t : Ready α) (cancelled : Bool) : t.executed cancelled =
    match t.plan.mode with
    | .direct =>
      runDirect t.adapter (t.invocation cancelled) (t.facts cancelled) (t.checked cancelled).2
    | .finalRecord _ dir =>
      runFinalRecord t.adapter (t.invocation cancelled) dir (t.facts cancelled) (t.checked cancelled).2
    | .snapshotPointer runId =>
      runSnapshot t.adapter (t.invocation cancelled) t.job.outDir runId (t.facts cancelled)
        (t.checked cancelled).2 := by
  rw [Ready.executed, execute, probe_eq _ _ _ rfl]
  rfl

theorem prepare_eq_ok {s : Service α} {files : FileTree} {j : Job} {m : Marketplace} {plan : Plan}
    {a : Adapter α} : s.prepare files j = (some m, .ok (plan, a)) ↔
      Marketplace.ofUrl j.url = .ok m ∧ s.registry.get? j.tool = some a ∧
        Plan.ofJob files j m = .ok plan := by
  rw [prepare]
  cases Marketplace.ofUrl j.url with
  | error e => simp
  | ok m' =>
    simp only [choose, Prod.mk.injEq, Option.some.injEq, Except.ok.injEq]
    refine and_congr_right ?_
    rintro rfl
    cases s.registry.get? j.tool with
    | none => simp
    | some a' =>
      cases Plan.ofJob files j m' with
      | error e => simp
      | ok plan' => simp [and_comm]

/-! ### Calls -/

theorem finish_calls (j : Job) (mode : Option Mode) (result : Except Failure Record) (p : Provenance)
    (w : World α) : (finish j mode result p w).2.calls = w.calls := by
  unfold finish
  dsimp only
  split
  · unfold store ResultFile.store
    dsimp only
    split <;> next h => rw [← congrArg (fun x => x.2.calls) h]
  · rfl

namespace Reaches

variable {s : Service α} {r : Request} {w w' : World α} {t t' : Ready α}

theorem calls_checked (h : s.Reaches r w t) (cancelled : Bool) :
    (t.checked cancelled).2.calls = w.calls ++ [.check t.adapter.name] := by
  have hw := congrArg (fun x => x.2.calls) h.opened
  simp only [openOutDir] at hw
  rw [hw]
  rfl

/-! ### The rest of the job -/

theorem run_eq (h : s.Reaches r w t) (cancelled : Bool) : s.run r cancelled w =
    finish t.job (some t.plan.mode) (t.executed cancelled).1 (t.executed cancelled).2.1
      (t.executed cancelled).2.2 := by
  rw [run, h.job]
  dsimp only
  rw [runJob, h.opened]
  dsimp only
  rw [runOpened, h.prepared]
  rfl

theorem run_direct_eq (h : s.Reaches r w t) (hmode : t.plan.mode = .direct) (cancelled : Bool) :
    s.run r cancelled w =
      let (result, p, after) :=
        runDirect t.adapter (t.invocation cancelled) (t.facts cancelled) (t.checked cancelled).2
      finish t.job (some .direct) result p after := by
  rw [h.run_eq, executed_eq, hmode]

theorem run_finalRecord_eq (h : s.Reaches r w t) {runId : String} {dir : Path}
    (hmode : t.plan.mode = .finalRecord runId dir) (cancelled : Bool) : s.run r cancelled w =
      let (result, p, after) := runFinalRecord t.adapter (t.invocation cancelled) dir
        (t.facts cancelled) (t.checked cancelled).2
      finish t.job (some (.finalRecord runId dir)) result p after := by
  rw [h.run_eq, executed_eq, hmode]

/-! ### What decides -/

/-- A finished record is looked for in the directory of the run that the request names. -/
theorem dir_eq (h : s.Reaches r w t) {runId : String} {dir : Path}
    (hmode : t.plan.mode = .finalRecord runId dir) :
    t.job.runId = some runId ∧ dir = Files.artifactDir t.job.outDir runId := by
  obtain ⟨-, -, hplan⟩ := prepare_eq_ok.mp h.prepared
  exact Plan.finalRecord_of_ofJob hplan hmode

/-- In one world a request gets ready in one way. -/
theorem eq (h : s.Reaches r w t) (h' : s.Reaches r w t') : t = t' := by
  obtain ⟨job, source, plan, adapter, world⟩ := t
  obtain ⟨job', source', plan', adapter', world'⟩ := t'
  obtain rfl : job = job' := Except.ok.inj (h.job.symm.trans h'.job)
  obtain rfl : world = world' := congrArg Prod.snd (h.opened.symm.trans h'.opened)
  cases h.prepared.symm.trans h'.prepared
  rfl

/-- From the same files a request gets equally far. -/
theorem unique (h : s.Reaches r w t) (h' : s.Reaches r w' t') (hfiles : w'.files = w.files) :
    t'.job = t.job ∧ t'.source = t.source ∧ t'.plan = t.plan ∧ t'.adapter = t.adapter ∧
      t'.world.files = t.world.files := by
  have hjob : t'.job = t.job := Except.ok.inj (h'.job.symm.trans h.job)
  have hworld : t'.world.files = t.world.files := by
    have hw := congrArg (fun x => x.2.files) h.opened
    have hw' := congrArg (fun x => x.2.files) h'.opened
    simp only [openOutDir] at hw hw'
    rw [← hw, ← hw', hfiles, hjob]
  have hprepared := h'.prepared
  rw [hworld, hjob, h.prepared] at hprepared
  simp only [Prod.mk.injEq, Option.some.injEq, Except.ok.injEq] at hprepared
  obtain ⟨hsource, hplan, hadapter⟩ := hprepared
  exact ⟨hjob, hsource.symm, hplan.symm, hadapter.symm, hworld⟩

end Reaches

/-! ### One agent -/

/-- A service with one agent and an empty environment. -/
def single (a : Adapter α) : Service α :=
  ⟨⟨[a], by simp⟩, fun _ => none⟩

/-- An agent whose credentials are fine and whose state is what it answers. -/
def constant (name : String) : Adapter (Except AgentError String) where
  name
  supportsOutputLimits := false
  checkAuth _ scene := (.ok (), scene)
  run _ scene := (scene.agents, scene)

/-- A world at the beginning of a year with an agent that answers like this. -/
def answeringWorld (files : FileTree) (answer : Except AgentError String) :
    World (Except AgentError String) where
  files
  now := emptyWorld.now
  agents := answer
  fresh := 0
  calls := []

/-- A job for a skill that leaves its record if the run is named. -/
def skillJob (runId : Option String) : Job where
  url := "app://shopee.tw/1"
  outDir := ⟨"out"⟩
  tool := "stub"
  prompting := .skill none
  runId
  model := none
  skipGitRepoCheck := false

/-- How far the job gets with the one agent. -/
def skillReady (runId : Option String) (files : FileTree) (answer : Except AgentError String) :
    Ready (Except AgentError String) where
  job := skillJob runId
  source := .shopee
  plan := ⟨Prompt.ofSkill ⟨.shopee, .finalRecord⟩ (skillJob runId).url
      (runId.map fun runId => (runId, Files.artifactDir ⟨"out"⟩ runId)),
    Plan.modeOf ⟨.shopee, .finalRecord⟩ (skillJob runId)⟩
  adapter := constant "stub"
  world := (openOutDir (skillJob runId) (answeringWorld files answer)).2

theorem reaches_skillJob {runId : Option String} {files : FileTree}
    (hjob : (skillJob runId).toRequest.toJob (fun _ => none) = .ok (skillJob runId))
    (hmade : (files.makeDirectories ⟨"out"⟩).1 = .ok ()) (answer : Except AgentError String) :
    (single (constant "stub")).Reaches (skillJob runId).toRequest (answeringWorld files answer)
      (skillReady runId files answer) where
  job := hjob
  opened := by
    refine Prod.ext ?_ rfl
    simp only [openOutDir, skillReady, skillJob, answeringWorld, hmade, Except.mapError]
  prepared := by
    have hpage : Marketplace.ofUrl "app://shopee.tw/1" = .ok .shopee := by decide +kernel
    exact prepare_eq_ok.mpr ⟨hpage, rfl, rfl⟩

/-- Without a run and without files the job is in direct mode. -/
theorem reaches_direct (answer : Except AgentError String) :
    (single (constant "stub")).Reaches (skillJob none).toRequest (answeringWorld ⟨[], []⟩ answer)
      (skillReady none ⟨[], []⟩ answer) := by
  have hjob : (skillJob none).toRequest.toJob (fun _ => none) = .ok (skillJob none) := by
    decide +kernel
  have hmade : (FileTree.makeDirectories ⟨[], []⟩ ⟨"out"⟩).1 = .ok () := by decide +kernel
  exact reaches_skillJob hjob hmade answer

end Service

end ListingCrawl
