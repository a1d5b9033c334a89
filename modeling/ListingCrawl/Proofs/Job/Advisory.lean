import Mathlib.Data.List.Forall2
import ListingCrawl.Proofs.Job.Course
import ListingCrawl.Proofs.Job.ResultFile

/-! The check of an agent's credentials is only a warning. Two runs of a job that differ in what the check
finds, and in nothing else that an agent would act upon, ask the agent the same and end the same; what the
check found is told under a key of its own and nowhere else. -/

namespace ListingCrawl

variable {α : Type} {R : α → α → Prop}

/-! ### What does not show -/

/-- The scenes are the same but for what the agents keep, and there they differ only in ways that `R`
allows. -/
structure Scene.Like (R : α → α → Prop) (c c' : Scene α) : Prop where
  files : c'.files = c.files
  now : c'.now = c.now
  agents : R c.agents c'.agents

structure World.Like (R : α → α → Prop) (w w' : World α) : Prop where
  scene : w.toScene.Like R w'.toScene
  fresh : w'.fresh = w.fresh
  calls : w'.calls = w.calls

/-- The agents do the same but for what a check of their credentials finds. -/
structure Adapter.Like (R : α → α → Prop) (a a' : Adapter α) : Prop where
  name : a'.name = a.name
  limits : a'.supportsOutputLimits = a.supportsOutputLimits
  check : ∀ cancelled c c', c.Like R c' → (a.checkAuth cancelled c).2.Like R (a'.checkAuth cancelled c').2
  answer : ∀ i c c', c.Like R c' → (a'.run i c').1 = (a.run i c).1
  run : ∀ i c c', c.Like R c' → (a.run i c).2.Like R (a'.run i c').2

structure Service.Like (R : α → α → Prop) (s s' : Service α) : Prop where
  env : s'.env = s.env
  adapters : List.Forall₂ (Adapter.Like R) s.registry.adapters s'.registry.adapters

/-! ### Asking -/

variable {a a' : Adapter α} {w w' : World α}

theorem World.Like.timestamp (h : w.Like R w') : w'.timestamp = w.timestamp :=
  congrArg Time.Instant.rfc3339 h.scene.now

theorem World.Like.check (hw : w.Like R w') (ha : a.Like R a') (cancelled : Bool) :
    (w.check a cancelled).2.Like R (w'.check a' cancelled).2 where
  scene := ha.check cancelled _ _ hw.scene
  fresh := hw.fresh
  calls := by simp only [World.check, hw.calls, ha.name]

theorem World.Like.answer (hw : w.Like R w') (ha : a.Like R a') (i : Invocation) :
    (w'.ask a' i).1 = (w.ask a i).1 :=
  ha.answer i _ _ hw.scene

theorem World.Like.ask (hw : w.Like R w') (ha : a.Like R a') (i : Invocation) :
    (w.ask a i).2.Like R (w'.ask a' i).2 where
  scene := ha.run i _ _ hw.scene
  fresh := hw.fresh
  calls := by simp only [World.ask, hw.calls, ha.name]

/-- An agent that is asked in both worlds gives one answer and leaves worlds that are alike. -/
theorem World.Like.ask_eq (hw : w.Like R w') (ha : a.Like R a') (i : Invocation) :
    ∃ answer after after', w.ask a i = (answer, after) ∧ w'.ask a' i = (answer, after') ∧
      after.Like R after' :=
  ⟨(w.ask a i).1, (w.ask a i).2, (w'.ask a' i).2, rfl, Prod.ext (hw.answer ha i) rfl, hw.ask ha i⟩

theorem World.Like.courseOf_eq (hw : w.Like R w') (outDir : Path) (source : Option Marketplace) :
    ResultFile.courseOf outDir source w' = ResultFile.courseOf outDir source w := by
  simp only [ResultFile.courseOf, hw.scene.files, hw.scene.now, hw.fresh]

namespace Repair

variable {β : Type} {accept : Accept β} {i : Invocation} {first last : Rejection} {raw : String}

/-- The two runs come to one outcome and leave worlds that are alike. -/
def SameRuns (R : α → α → Prop) (x x' : Except CrawlError (Repaired β) × World α) : Prop :=
  x'.1 = x.1 ∧ x.2.Like R x'.2

theorem lastRun_like (hw : w.Like R w') (ha : a.Like R a') (attempts : Nat) :
    SameRuns R (lastRun a i accept first last raw attempts w)
      (lastRun a' i accept first last raw attempts w') := by
  unfold lastRun
  obtain ⟨answer, after, after', hask, hask', hafter⟩ :=
    hw.ask_eq ha (withPrompt i (Prompt.repair i.url last.message raw))
  rw [hask, hask', ha.name]
  cases answer with
  | error e => exact ⟨rfl, hafter⟩
  | ok raw =>
    dsimp only
    rw [hafter.timestamp]
    split <;> exact ⟨rfl, hafter⟩

theorem limitedRun_like (hw : w.Like R w') (ha : a.Like R a') :
    SameRuns R (limitedRun a i accept first w) (limitedRun a' i accept first w') := by
  unfold limitedRun
  obtain ⟨answer, after, after', hask, hask', hafter⟩ :=
    hw.ask_eq ha (withPrompt i (Prompt.withOutputLimits i.prompt))
  rw [hask, hask', ha.name]
  cases answer with
  | error e => exact ⟨rfl, hafter⟩
  | ok raw =>
    dsimp only
    rw [hafter.timestamp]
    split
    · exact ⟨rfl, hafter⟩
    · exact lastRun_like hafter ha 1

theorem run_like (accept : Accept β) (hw : w.Like R w') (ha : a.Like R a') :
    SameRuns R (run a i accept w) (run a' i accept w') := by
  unfold run
  obtain ⟨answer, after, after', hask, hask', hafter⟩ := hw.ask_eq ha i
  have hwants : ∀ first raw, wantsLimits a' first raw = wantsLimits a first raw := by
    intro first raw
    rw [wantsLimits, ha.limits, wantsLimits]
  rw [hask, hask', ha.name]
  cases answer with
  | error e => exact ⟨rfl, hafter⟩
  | ok raw =>
    dsimp only
    rw [hafter.timestamp]
    split
    · exact ⟨rfl, hafter⟩
    · rw [hwants]
      split
      · exact limitedRun_like hafter ha
      · exact lastRun_like hafter ha 0

end Repair

namespace Service

/-- The two runs have one result, what is known about them is the same but for what the check found, and
they leave worlds that are alike. -/
structure SameResults (R : α → α → Prop) (x x' : Except Failure Record × Provenance × World α) :
    Prop where
  result : x'.1 = x.1
  facts : x'.2.1.unchecked = x.2.1.unchecked
  world : x.2.2.Like R x'.2.2

variable {p p' : Provenance} {i : Invocation}

theorem probe_like (hw : w.Like R w') (ha : a.Like R a') (cancelled : Bool) (p : Provenance) :
    (probe a' cancelled p w').1.unchecked = (probe a cancelled p w).1.unchecked ∧
      (probe a cancelled p w).2.Like R (probe a' cancelled p w').2 := by
  have hchecked := hw.check ha cancelled
  unfold probe
  generalize w.check a cancelled = x at hchecked ⊢
  generalize w'.check a' cancelled = x' at hchecked ⊢
  obtain ⟨result, after⟩ := x
  obtain ⟨result', after'⟩ := x'
  cases result <;> cases result' <;> exact ⟨rfl, hchecked⟩

theorem runDirect_like (hw : w.Like R w') (ha : a.Like R a') (hp : p'.unchecked = p.unchecked) :
    SameResults R (runDirect a i p w) (runDirect a' i p' w') := by
  obtain ⟨houtcome, hafter⟩ :=
    Repair.run_like (i := i) (fun now raw => Recovery.acceptDirect now i.url raw) hw ha
  unfold runDirect
  generalize Repair.run a i (fun now raw => Recovery.acceptDirect now i.url raw) w = x at houtcome hafter ⊢
  generalize Repair.run a' i (fun now raw => Recovery.acceptDirect now i.url raw) w' = x' at houtcome hafter ⊢
  obtain ⟨outcome, after⟩ := x
  obtain ⟨_, after'⟩ := x'
  cases houtcome
  cases outcome with
  | error e => exact ⟨rfl, hp, hafter⟩
  | ok repaired =>
    exact ⟨rfl, congrArg (fun p => { p with
      resultSource := some .toolOutput, repairAttempts := some repaired.attempts }) hp, hafter⟩

theorem runFinalRecord_like (hw : w.Like R w') (ha : a.Like R a') (hp : p'.unchecked = p.unchecked)
    (dir : Path) : SameResults R (runFinalRecord a i dir p w) (runFinalRecord a' i dir p' w') := by
  rw [runFinalRecord_eq, runFinalRecord_eq]
  obtain ⟨answer, after, after', hask, hask', hafter⟩ := hw.ask_eq ha i
  rw [hask, hask']
  dsimp only
  rw [hafter.timestamp, hafter.scene.files]
  exact ⟨rfl, congrArg (fun p => { p with
    resultSource := (Recovery.finalRecord after.files after.timestamp i.url dir answer).2
    toolError := error? answer }) hp, hafter⟩

theorem runSnapshot_like (hw : w.Like R w') (ha : a.Like R a') (hp : p'.unchecked = p.unchecked)
    (outDir : Path) (runId : Option String) :
    SameResults R (runSnapshot a i outDir runId p w) (runSnapshot a' i outDir runId p' w') := by
  obtain ⟨answer, after, after', hask, hask', hafter⟩ := hw.ask_eq ha i
  unfold runSnapshot
  rw [hask, hask', ha.name]
  cases answer with
  | error e => exact ⟨rfl, hp, hafter⟩
  | ok raw =>
    dsimp only
    rw [hafter.timestamp, hafter.scene.files]
    split
    · exact ⟨rfl, hp, hafter⟩
    · next pointer _ =>
      exact ⟨rfl, congrArg (fun p => { p with
        runId := p.runId <|> Text.trimmed? pointer.runId
        resultSource := some .artifactSnapshot }) hp, hafter⟩

theorem execute_like (hw : w.Like R w') (ha : a.Like R a') (j : Job) (plan : Plan) (cancelled : Bool)
    (p : Provenance) :
    SameResults R (execute a j plan cancelled p w) (execute a' j plan cancelled p w') := by
  obtain ⟨hp, hchecked⟩ := probe_like hw ha cancelled p
  unfold execute
  dsimp only
  split
  · exact runDirect_like hchecked ha hp
  · exact runFinalRecord_like hchecked ha hp _
  · exact runSnapshot_like hchecked ha hp _ _

/-! ### Preparing -/

variable {s s' : Service α}

theorem Like.names (hs : s.Like R s') : s'.registry.names = s.registry.names := by
  have hnames : ∀ {as as' : List (Adapter α)}, List.Forall₂ (Adapter.Like R) as as' →
      as'.map Adapter.name = as.map Adapter.name := by
    intro as as' h
    induction h with
    | nil => rfl
    | cons hhead _ ih => rw [List.map_cons, List.map_cons, hhead.name, ih]
  rw [Registry.names, hnames hs.adapters, Registry.names]

/-- Both services have an agent of a name, or neither has. -/
theorem Like.get?_cases (hs : s.Like R s') (name : String) :
    s.registry.get? name = none ∧ s'.registry.get? name = none ∨
      ∃ a a', a.Like R a' ∧ s.registry.get? name = some a ∧ s'.registry.get? name = some a' := by
  have hfind : ∀ {as as' : List (Adapter α)}, List.Forall₂ (Adapter.Like R) as as' →
      as.find? (·.name == name) = none ∧ as'.find? (·.name == name) = none ∨
        ∃ a a', a.Like R a' ∧ as.find? (·.name == name) = some a ∧
          as'.find? (·.name == name) = some a' := by
    intro as as' h
    induction h with
    | nil => exact .inl ⟨rfl, rfl⟩
    | cons hhead _ ih =>
      rw [List.find?_cons, List.find?_cons, hhead.name]
      split
      · exact .inr ⟨_, _, hhead, rfl, rfl⟩
      · exact ih
  exact hfind hs.adapters

theorem prepare_like (hs : s.Like R s') (files : FileTree) (j : Job) :
    (∃ source e, s.prepare files j = (source, .error e) ∧ s'.prepare files j = (source, .error e)) ∨
      ∃ source plan a a', a.Like R a' ∧ s.prepare files j = (source, .ok (plan, a)) ∧
        s'.prepare files j = (source, .ok (plan, a')) := by
  unfold prepare
  split
  · exact .inl ⟨_, _, rfl, rfl⟩
  · unfold choose
    obtain ⟨hnone, hnone'⟩ | ⟨a, a', ha, hsome, hsome'⟩ := hs.get?_cases j.tool
    · rw [hnone, hnone', hs.names]
      exact .inl ⟨_, _, rfl, rfl⟩
    · rw [hsome, hsome']
      dsimp only
      split
      · exact .inl ⟨_, _, rfl, rfl⟩
      · exact .inr ⟨_, _, a, a', ha, rfl, rfl⟩

/-! ### Finishing -/

/-- The trees are the same but for the file of a record, if one was written; that is at the path that is
named, if one is. -/
structure SameFiles (file : Option Path) (r r' : Record) (t t' : FileTree) : Prop where
  workDir : t'.workDir = t.workDir
  entries : ∃ place : Option Location, (∀ l, place ≠ some l → t'.entry? l = t.entry? l) ∧
    (∀ l, place = some l → t.entry? l = some (.file (ResultFile.content r)) ∧
      t'.entry? l = some (.file (ResultFile.content r'))) ∧
    ∀ path, file = some path → ∃ l, place = some l ∧ t.locate path = .ok l ∧ t'.locate path = .ok l

theorem sameFiles_of_eq {t t' : FileTree} (h : t' = t) (r r' : Record) : SameFiles none r r' t t' :=
  ⟨congrArg FileTree.workDir h, none, fun _ _ => h ▸ rfl, nofun, nofun⟩

/-- What the two runs of a job have in common. -/
structure SameButCheck (x x' : Outcome × World α) : Prop where
  calls : x'.2.calls = x.2.calls
  error : x'.1.error = x.1.error
  storedAt : x'.1.storedAt = x.1.storedAt
  record : x'.1.record.erase "auth_check_error" = x.1.record.erase "auth_check_error"
  files : SameFiles x.1.storedAt x.1.record x'.1.record x.2.files x'.2.files

/-- Two records go to the same file, or to none. -/
theorem store_like (hw : w.Like R w') {j : Job} (hout : j.outDir.text ≠ "") (source : Option Marketplace)
    {o o' : Outcome} (hfile : o.storedAt = none) (herror : o'.error = o.error)
    (hstored : o'.storedAt = o.storedAt)
    (hrecord : o'.record.erase "auth_check_error" = o.record.erase "auth_check_error") :
    SameButCheck (store j source o w) (store j source o' w') := by
  rw [store_eq hout, store_eq hout, hw.courseOf_eq, hw.scene.now, hw.fresh]
  have hplace : ∀ l, (ResultFile.courseOf j.outDir source w).1.place? = some l → l ≠ [] :=
    fun _ => ResultFile.courseOf_place
  have hkept := ResultFile.courseOf_eq_ok source w hout
  generalize ResultFile.courseOf j.outDir source w = x at hplace hkept ⊢
  generalize ResultFile.path j.outDir (ResultFile.baseName w.now source w.fresh) = file at hkept ⊢
  obtain ⟨course, t⟩ := x
  dsimp only at hplace hkept ⊢
  have hentries : ∀ path, (storedBy j file o course.result).storedAt = some path →
      ∃ l, course.place? = some l ∧ (course.leaves t (ResultFile.content o.record)).locate path = .ok l ∧
        (course.leaves t (ResultFile.content o'.record)).locate path = .ok l := by
    intro path hpath
    cases hresult : course.result with
    | error e =>
      rw [hresult, storedBy, hfile] at hpath
      cases hpath
    | ok =>
      rw [hresult] at hpath
      cases hpath
      obtain ⟨final, hfinal, hlocate⟩ := hkept hresult
      exact ⟨final, hfinal, (hlocate _).2, (hlocate _).2⟩
  have hrecords : ∀ o : Outcome, (storedBy j file o course.result).record = o.record := by
    intro o
    cases course.result <;> rfl
  refine ⟨hw.calls, ?_, ?_, ?_, ?_⟩
  · cases course.result with
    | ok => exact herror
    | error e => rw [storedBy, storedBy, herror]
  · cases course.result with
    | ok => rfl
    | error e => exact hstored
  · rw [hrecords, hrecords, hrecord]
  · rw [hrecords, hrecords]
    exact ⟨by simp, course.place?, fun l hl => ResultFile.Course.leaves_of_ne hl,
      fun l hl => ⟨ResultFile.Course.leaves_place (hplace l hl) hl,
        ResultFile.Course.leaves_place (hplace l hl) hl⟩, hentries⟩

theorem finish_like (hw : w.Like R w') {j : Job} (hout : j.outDir.text ≠ "") (mode : Option Mode)
    (result : Except Failure Record) (hp : p'.unchecked = p.unchecked) :
    SameButCheck (finish j mode result p w) (finish j mode result p' w') := by
  have hrecord : ∀ r, (p'.stamp r).erase "auth_check_error" = (p.stamp r).erase "auth_check_error" := by
    intro r
    rw [p'.erase_stamp_unchecked, hp, p.erase_stamp_unchecked]
  have hsource : p'.unchecked.source = p.unchecked.source := by rw [hp]
  unfold finish
  rw [hw.timestamp]
  dsimp only
  split
  · change SameButCheck _ (store j p'.unchecked.source _ _)
    rw [hsource]
    exact store_like hw hout p.source rfl rfl rfl (hrecord _)
  · exact ⟨hw.calls, rfl, rfl, hrecord _, sameFiles_of_eq hw.scene.files _ _⟩

/-! ### Two runs -/

theorem runOpened_like (hs : s.Like R s') (hw : w.Like R w') {j : Job} (hout : j.outDir.text ≠ "")
    (cancelled : Bool) : SameButCheck (s.runOpened j cancelled w) (s'.runOpened j cancelled w') := by
  unfold runOpened
  rw [hw.scene.files]
  obtain ⟨source, e, hprepared, hprepared'⟩ | ⟨source, plan, a, a', ha, hprepared, hprepared'⟩ :=
    prepare_like hs w.files j
  · rw [hprepared, hprepared']
    exact finish_like hw hout none _ rfl
  · rw [hprepared, hprepared']
    dsimp only
    obtain ⟨hresult, hfacts, hafter⟩ := execute_like hw ha j plan cancelled
      { Provenance.ofTool j.tool with source, runId := plan.mode.runId? }
    rw [hresult]
    exact finish_like hafter hout (some plan.mode) _ hfacts

theorem openOutDir_like (hw : w.Like R w') (j : Job) :
    (openOutDir j w').1 = (openOutDir j w).1 ∧ (openOutDir j w).2.Like R (openOutDir j w').2 := by
  unfold openOutDir
  rw [hw.scene.files]
  exact ⟨rfl, ⟨⟨rfl, hw.scene.now, hw.scene.agents⟩, hw.fresh, hw.calls⟩⟩

/-- The check of the agent's credentials does not decide anything. Two runs of a job that differ in what it
finds ask the agent the same and have the same error and the same record, but for the key under which the
failure of the check is told. The files that they leave are the same, but for that of the record. -/
theorem run_check_advisory (hs : s.Like R s') (hw : w.Like R w') (r : Request) (cancelled : Bool) :
    SameButCheck (s.run r cancelled w) (s'.run r cancelled w') := by
  unfold run
  rw [hs.env]
  split
  · rw [hw.timestamp]
    exact ⟨hw.calls, rfl, rfl, rfl, sameFiles_of_eq hw.scene.files _ _⟩
  · next j hj =>
    obtain ⟨hmade, hopened⟩ := openOutDir_like hw j
    unfold runJob
    generalize openOutDir j w = x at hmade hopened ⊢
    generalize openOutDir j w' = x' at hmade hopened ⊢
    obtain ⟨result, opened⟩ := x
    obtain ⟨_, opened'⟩ := x'
    cases hmade
    cases result with
    | error e =>
      dsimp only at hopened ⊢
      rw [hopened.timestamp]
      exact ⟨hopened.calls, rfl, rfl, rfl, sameFiles_of_eq hopened.scene.files _ _⟩
    | ok => exact runOpened_like hs hopened (Request.outDir_of_toJob hj) cancelled

/-- An agent like the constant one whose credentials are found to be expired. -/
def expired (name : String) : Adapter (Except AgentError String) :=
  { constant name with checkAuth := fun _ scene => (.error ⟨["token expired"]⟩, scene) }

theorem like_expired (name : String) : (single (constant name)).Like Eq (single (expired name)) where
  env := rfl
  adapters := by
    refine .cons ⟨rfl, rfl, fun _ _ _ h => h, fun _ c c' h => ?_, fun _ _ _ h => h⟩ .nil
    exact h.agents.symm

/-- The check fails for one agent only. -/
theorem run_check_advisory_expired :
    let w := answeringWorld ⟨[], []⟩ (.ok "\x7b\"status\":\"ok\"\x7d")
    ((constant "stub").checkAuth false w.toScene).1 = .ok () ∧
      ((expired "stub").checkAuth false w.toScene).1 = .error ⟨["token expired"]⟩ ∧
      SameButCheck ((single (constant "stub")).run (skillJob none).toRequest false w)
        ((single (expired "stub")).run (skillJob none).toRequest false w) := by
  intro w
  have hw : w.Like Eq w := ⟨⟨rfl, rfl, rfl⟩, rfl, rfl⟩
  exact ⟨rfl, rfl, run_check_advisory (like_expired "stub") hw (skillJob none).toRequest false⟩

end Service

end ListingCrawl
