import Mathlib.Logic.Function.Basic
import ListingCrawl.Proofs.Files.Region
import ListingCrawl.Proofs.Job.Confinement
import ListingCrawl.Proofs.Job.Steps

/-! Jobs that take turns. Each looks for the finished record of its own run, all of them in one output
directory. Their agents may do what they like in the directories of their own runs, and they heed nothing
else. Then each job ends as it does alone, in whatever order the steps of the jobs follow one another: the
run ids are names of different directories, and no step of a job looks into that of another. -/

namespace ListingCrawl

open FileTree (SameAt ChangesAt)

/-- The output directory is in its place and every entry is in a directory. -/
structure Ground (outDir : Path) (out : Location) (t : FileTree) : Prop where
  rooted : t.Rooted
  leads : t.locate outDir = .ok out
  directory : t.entry? out = some .directory

section Record

variable {outDir : Path} {out : Location} {t t' : FileTree} {runId : String}

/-- Where trees agree on the directory of a run, they have the same finished record. -/
theorem Ground.stat_record (hground : Ground outDir out t) (hground' : Ground outDir out t')
    (h : SameAt (Files.runPlace out runId) t t') (hout : outDir.text ≠ "") (hname : IsPlainName runId)
    (e : Entry) :
    let file := Artifact.finalRecordFile (Files.artifactDir outDir runId)
    t'.stat file = .ok e ↔ t.stat file = .ok e := by
  have hnames : ∀ n ∈ ["artifacts", runId, Files.finalRecordName], IsPlainName n := by
    simp only [List.forall_mem_cons]
    exact ⟨Files.isPlainName_artifacts, hname, Files.isPlainName_finalRecordName, nofun⟩
  have hbelow := hground.rooted.stat_below (e := e) hout hground.leads hnames
  have hbelow' := hground'.rooted.stat_below (e := e) hout hground'.leads hnames
  have hplace : Files.runPlace out runId <+: out ++ ["artifacts", runId, Files.finalRecordName] :=
    ⟨[Files.finalRecordName], by simp [Files.runPlace]⟩
  rw [h.below _ hplace] at hbelow'
  exact hbelow'.trans hbelow.symm

/-- What is taken is the same if the record is the one that was found. -/
theorem Recovery.taken_congr {dir : Path}
    (h : ∀ e, t'.stat (Artifact.finalRecordFile dir) = .ok e ↔ t.stat (Artifact.finalRecordFile dir) = .ok e)
    (now url : String) (answer : Except AgentError String) :
    taken (t.exists? (Artifact.finalRecordFile dir)) t' now url dir answer =
      taken (t.exists? (Artifact.finalRecordFile dir)) t now url dir answer := by
  unfold taken
  split
  · next hexists =>
    have hrecord : Artifact.finalRecord t' dir = Artifact.finalRecord t dir := by
      unfold Artifact.finalRecord
      rw [FileTree.read_congr h hexists]
    unfold ofRecord
    rw [hrecord]
  · rfl

end Record

/-! ### Agents that keep to their directory -/

/-- What an agent does when it works for a run: it changes nothing but the directory of the run, leaves the
output directory where it is, and heeds nothing but the directory of the run and the clock. -/
structure Isolated {α β : Type} (outDir : Path) (out top : Location) (act : Scene α → β × Scene α) :
    Prop where
  changes : ∀ c, Ground outDir out c.files → ChangesAt top c.files (act c).2.files
  ground : ∀ c, Ground outDir out c.files → Ground outDir out (act c).2.files
  answer : ∀ c c', Ground outDir out c.files → Ground outDir out c'.files →
    SameAt top c.files c'.files → c'.now = c.now → (act c').1 = (act c).1
  leaves : ∀ c c', Ground outDir out c.files → Ground outDir out c'.files →
    SameAt top c.files c'.files → c'.now = c.now → SameAt top (act c).2.files (act c').2.files

/-- Changes below a location leave the output directory in its place, unless its path goes up. -/
theorem Ground.changesAt {outDir : Path} {out top : Location} {t t' : FileTree} (h : Ground outDir out t)
    (hchange : ChangesAt top t t') (hrooted : t'.Rooted) (hup : ".." ∉ outDir.names)
    (htop : ¬ top <+: out) : Ground outDir out t' where
  rooted := hrooted
  leads := hchange.locate hup h.leads htop
  directory := by
    obtain hsame | ⟨-, hnone, -⟩ := hchange.elsewhere out htop
    · rw [hsame, h.directory]
    · rw [h.directory] at hnone
      cases hnone

/-- An agent that does nothing but answer heeds nothing. -/
theorem isolated_pure {α β : Type} (outDir : Path) (out top : Location) (answer : β) :
    Isolated outDir out top fun c : Scene α => (answer, c) where
  changes _ _ := .refl _ _
  ground _ h := h
  answer _ _ _ _ _ _ := rfl
  leaves _ _ _ _ h _ := h

/-- An agent that leaves one file in a directory keeps to it. -/
theorem isolated_leave {α β : Type} {outDir : Path} {out top : Location} (hup : ".." ∉ outDir.names)
    (htop : ¬ top <+: out) (answer : β) (n : String) (content : Octets) :
    Isolated outDir out top fun c : Scene α => (answer, { c with files := c.files.leave top n content }) where
  changes _ _ := FileTree.changesAt_leave _ _ _ _
  ground _ h := h.changesAt (FileTree.changesAt_leave _ _ _ _) (h.rooted.leave _ _ _) hup htop
  answer _ _ _ _ _ _ := rfl
  leaves _ _ _ _ h _ := h.leave n content

namespace Service

variable {α : Type}

/-! ### One job beside others -/

/-- The stages of a job that looks for the finished record of this run. -/
inductive OnCourse (t : Ready α) (runId : String) (files : FileTree) : Stage α → Prop where
  | opened : OnCourse t runId files (.opened t.job)
  | planned (p : Provenance) : OnCourse t runId files (.planned t.job t.plan t.adapter p)
  | checked (p : Provenance) : OnCourse t runId files (.checked t.job t.plan t.adapter p)
  | answered (answer : Except AgentError String) (p : Provenance) :
    OnCourse t runId files (.answered t.job
      (.finalRecord runId (Files.artifactDir t.job.outDir runId))
      (Files.artifactDir t.job.outDir runId) answer p)
  | looked (answer : Except AgentError String) (p : Provenance) :
    OnCourse t runId files (.looked t.job
      (.finalRecord runId (Files.artifactDir t.job.outDir runId))
      (Files.artifactDir t.job.outDir runId) answer p
      (files.exists? (Artifact.finalRecordFile (Files.artifactDir t.job.outDir runId))))
  | taken (result : Except Failure Record) (p : Provenance) :
    OnCourse t runId files (.taken t.job
      (some (.finalRecord runId (Files.artifactDir t.job.outDir runId))) result p)
  | done (o : Outcome) : OnCourse t runId files (.done o)

/-- Beside others, the job is at the stage at which it is alone, and the directory of its run is the same. -/
structure Tracks (t : Ready α) (runId : String) (out : Location) (x y : Stage α × World α) : Prop where
  stage : y.1 = x.1
  course : OnCourse t runId x.2.files x.1
  ground : Ground t.job.outDir out x.2.files
  ground' : Ground t.job.outDir out y.2.files
  same : SameAt (Files.runPlace out runId) x.2.files y.2.files

/-- A job that gets ready to look for a finished record, with an agent that keeps to the run's directory. -/
structure Works (s : Service α) (r : Request) (cancelled : Bool) (w : World α) (out : Location)
    (runId : String) (t : Ready α) : Prop where
  reaches : s.Reaches r w t
  mode : t.plan.mode = .finalRecord runId (Files.artifactDir t.job.outDir runId)
  check : Isolated t.job.outDir out (Files.runPlace out runId) (t.adapter.checkAuth cancelled)
  run : Isolated t.job.outDir out (Files.runPlace out runId) (t.adapter.run (t.invocation cancelled))

variable {s : Service α} {r : Request} {cancelled : Bool} {w : World α} {out : Location}
  {runId : String} {t : Ready α}

/-- The plan for a job with a skill does not depend on any file. -/
theorem Works.prepare_eq (h : Works s r cancelled w out runId t) (files : FileTree) :
    s.prepare files t.job = (some t.source, .ok (t.plan, t.adapter)) := by
  obtain ⟨hpage, hagent, hplan⟩ := prepare_eq_ok.mp h.reaches.prepared
  refine prepare_eq_ok.mpr ⟨hpage, hagent, ?_⟩
  unfold Plan.ofJob at hplan ⊢
  split at hplan
  · split at hplan
    · cases hplan
    · have hmode := h.mode
      rw [← Except.ok.inj hplan] at hmode
      cases hmode
  · exact hplan

/-- What is known once the check has come out. -/
def noted (p : Provenance) : Except AgentError Unit → Provenance
  | .ok () => p
  | .error e => { p with authCheckError := some e }

theorem probe_eq_noted (a : Adapter α) (cancelled : Bool) (p : Provenance) (w : World α) :
    probe a cancelled p w = (noted p (w.check a cancelled).1, (w.check a cancelled).2) := by
  unfold probe
  generalize w.check a cancelled = x
  obtain ⟨result, after⟩ := x
  cases result <;> rfl

/-- One step of the job alone and beside others. -/
theorem Works.step (h : Works s r cancelled w out runId t) {x y : Stage α × World α}
    (htracks : Tracks t runId out x y) (hnow : y.2.now = x.2.now) :
    Tracks t runId out (s.step r cancelled x) (s.step r cancelled y) ∧
      ChangesAt (Files.runPlace out runId) y.2.files (s.step r cancelled y).2.files := by
  obtain ⟨stage, a⟩ := x
  obtain ⟨_, b⟩ := y
  obtain ⟨hstage, hcourse, hground, hground', hsame⟩ := htracks
  dsimp only at hstage hcourse hground hground' hsame hnow
  subst hstage
  have htime : b.timestamp = a.timestamp := congrArg Time.Instant.rfc3339 hnow
  have hout : t.job.outDir.text ≠ "" := Request.outDir_of_toJob h.reaches.job
  have hname : IsPlainName runId := isPlainName_runId h.reaches.job (h.reaches.dir_eq h.mode).1
  have hstat := hground.stat_record hground' hsame hout hname
  cases hcourse with
  | opened =>
    rw [Service.step, Service.step, h.prepare_eq, h.prepare_eq]
    exact ⟨⟨rfl, .planned _, hground, hground', hsame⟩, .refl _ _⟩
  | planned p =>
    have hanswer : (b.check t.adapter cancelled).1 = (a.check t.adapter cancelled).1 :=
      h.check.answer a.toScene b.toScene hground hground' hsame hnow
    rw [Service.step, Service.step, probe_eq_noted, probe_eq_noted, hanswer]
    exact ⟨⟨rfl, .checked _, h.check.ground _ hground, h.check.ground _ hground',
      h.check.leaves _ _ hground hground' hsame hnow⟩, h.check.changes _ hground'⟩
  | checked p =>
    have hanswer : (b.ask t.adapter (t.invocation cancelled)).1 =
        (a.ask t.adapter (t.invocation cancelled)).1 :=
      h.run.answer a.toScene b.toScene hground hground' hsame hnow
    have hinvocation : Service.invocation t.job t.plan.prompt cancelled = t.invocation cancelled := rfl
    rw [Service.step, Service.step, h.mode, hinvocation]
    dsimp only
    rw [hanswer]
    exact ⟨⟨rfl, .answered _ p, h.run.ground _ hground, h.run.ground _ hground',
      h.run.leaves _ _ hground hground' hsame hnow⟩, h.run.changes _ hground'⟩
  | answered answer p =>
    rw [Service.step, Service.step, FileTree.exists?_congr hstat]
    exact ⟨⟨rfl, .looked answer p, hground, hground', hsame⟩, .refl _ _⟩
  | looked answer p =>
    rw [Service.step, Service.step, htime, Recovery.taken_congr hstat]
    exact ⟨⟨rfl, .taken _ _, hground, hground', hsame⟩, .refl _ _⟩
  | taken result p =>
    rw [Service.step, Service.step, finish_of_not_isStored rfl, finish_of_not_isStored rfl, htime]
    exact ⟨⟨rfl, .done _, hground, hground', hsame⟩, .refl _ _⟩
  | done o =>
    rw [Service.step, Service.step]
    exact ⟨⟨rfl, .done o, hground, hground', hsame⟩, .refl _ _⟩

/-! ### Making the output directory -/

theorem Works.opens (h : Works s r cancelled w out runId t) {v : World α} (hv : v.files = w.files) :
    s.step r cancelled (.start, v) = (.opened t.job, { v with files := t.world.files }) := by
  have hmade := h.reaches.opened
  unfold openOutDir at hmade
  have hresult := congrArg Prod.fst hmade
  have hfiles := congrArg (fun x => x.2.files) hmade
  dsimp only at hresult hfiles
  rw [Service.step, h.reaches.job]
  dsimp only
  rw [openOutDir, hv]
  dsimp only
  rw [hresult, hfiles]

/-- Where the output directory is already, nothing has to be made. -/
theorem Works.opens_again (h : Works s r cancelled w out runId t) {v : World α}
    (hv : Ground t.job.outDir out v.files) : s.step r cancelled (.start, v) = (.opened t.job, v) := by
  have hdirectory := FileTree.isDirectory_iff.mpr ⟨out, hv.leads, hv.directory⟩
  rw [Service.step, h.reaches.job]
  dsimp only
  rw [openOutDir, FileTree.makeDirectories_of_isDirectory hdirectory]
  rfl

theorem Works.opened_files (h : Works s r cancelled w out runId t) :
    t.world.files = (w.files.makeDirectories t.job.outDir).2 := by
  have hfiles := congrArg (fun x => x.2.files) h.reaches.opened
  exact hfiles.symm

/-- The output directory that was made is in its place. -/
theorem Works.ground (h : Works s r cancelled w out runId t) (hrooted : w.files.Rooted)
    (hleads : (w.files.makeDirectories t.job.outDir).2.locate t.job.outDir = .ok out) :
    Ground t.job.outDir out t.world.files := by
  have hresult : (w.files.makeDirectories t.job.outDir).1 = .ok () := by
    have hmade := congrArg Prod.fst h.reaches.opened
    unfold openOutDir at hmade
    cases hcase : (w.files.makeDirectories t.job.outDir).1 with
    | ok => rfl
    | error e => simp [hcase, Except.mapError] at hmade
  have hdirectory := FileTree.isDirectory_makeDirectories (Request.outDir_of_toJob h.reaches.job) hresult
  obtain ⟨place, hplace, hentry⟩ := FileTree.isDirectory_iff.mp hdirectory
  obtain rfl : place = out := Except.ok.inj (hplace.symm.trans hleads)
  rw [h.opened_files]
  exact ⟨hrooted.makeDirectories _, hplace, hentry⟩

/-! ### Taking turns -/

/-- Several jobs, each at its own stage, in one world. -/
structure Joint (ι α : Type) where
  stage : ι → Stage α
  world : World α

/-- The job whose turn it is, and what the clock shows then. -/
structure Turn (ι : Type) where
  job : ι
  now : Time.Instant

variable {ι : Type} [DecidableEq ι]

/-- One job takes its next step. -/
def turn (s : Service α) (r : ι → Request) (cancelled : ι → Bool) (x : Joint ι α) (turn : Turn ι) :
    Joint ι α :=
  let y := s.stepAt (r turn.job) (cancelled turn.job) (x.stage turn.job, x.world) turn.now
  ⟨Function.update x.stage turn.job y.1, y.2⟩

/-- The jobs take their steps in the order of these turns. -/
def turns (s : Service α) (r : ι → Request) (cancelled : ι → Bool) (w : World α)
    (turns : List (Turn ι)) : Joint ι α :=
  turns.foldl (s.turn r cancelled) ⟨fun _ => .start, w⟩

/-- The times of a job's own turns. -/
def timesOf (b : ι) (turns : List (Turn ι)) : List Time.Instant :=
  (turns.filter (·.job = b)).map Turn.now

/-- Jobs of different runs that work side by side in one output directory. -/
structure WorkSideBySide (s : Service α) (r : ι → Request) (cancelled : ι → Bool) (w : World α)
    (outDir : Path) (out : Location) (runId : ι → String) (t : ι → Ready α) : Prop where
  works : ∀ b, Works s (r b) (cancelled b) w out (runId b) (t b)
  inOutDir : ∀ b, (t b).job.outDir = outDir
  runIds : Function.Injective runId
  rooted : w.files.Rooted
  leads : (w.files.makeDirectories outDir).2.locate outDir = .ok out

/-- How a job stands beside others, once one of them has made the output directory. -/
inductive Stands (w : World α) (out : Location) (runId : String) (t : Ready α) (stage : Stage α)
    (world : World α) (y : Stage α × World α) : Prop where
  | waits (beside : stage = .start) (alone : y.1 = .start) (files : y.2.files = w.files)
    (same : SameAt (Files.runPlace out runId) t.world.files world.files)
  | goes (tracks : Tracks t runId out y (stage, world))

/-- What holds of all the jobs between two turns, and of each of them alone. -/
inductive Together (w : World α) (outDir : Path) (out : Location) (runId : ι → String)
    (t : ι → Ready α) (x : Joint ι α) (y : ι → Stage α × World α) : Prop where
  | waiting (files : x.world.files = w.files) (beside : ∀ b, x.stage b = .start)
    (alone : ∀ b, (y b).1 = .start ∧ (y b).2.files = w.files)
  | going (ground : Ground outDir out x.world.files)
    (stands : ∀ b, Stands w out (runId b) (t b) (x.stage b) x.world (y b))

omit [DecidableEq ι] in
theorem Together.stage_eq {w : World α} {outDir : Path} {out : Location} {runId : ι → String}
    {t : ι → Ready α} {x : Joint ι α} {y : ι → Stage α × World α}
    (h : Together w outDir out runId t x y) (b : ι) : x.stage b = (y b).1 := by
  cases h with
  | waiting _ beside alone => rw [beside, (alone b).1]
  | going _ stands =>
    cases stands b with
    | waits beside alone => rw [beside, alone]
    | goes tracks => exact tracks.stage

theorem Stands.changesAt {world world' : World α} {stage : Stage α} {y : Stage α × World α}
    (h : Stands w out runId t stage world y) {other : String} (hne : runId ≠ other)
    (hchange : ChangesAt (Files.runPlace out other) world.files world'.files)
    (hground : Ground t.job.outDir out world'.files) : Stands w out runId t stage world' y := by
  have hapart := Files.runPlace_apart out hne
  have hapart' := Files.runPlace_apart out hne.symm
  cases h with
  | waits beside alone files same =>
    exact .waits beside alone files (same.changesAt hchange hapart hapart')
  | goes tracks =>
    exact .goes ⟨tracks.stage, tracks.course, tracks.ground, hground,
      tracks.same.changesAt hchange hapart hapart'⟩

/-- A job takes its first step before any other does. -/
theorem Works.stepAt_first (h : Works s r cancelled w out runId t) (hmade : Ground t.job.outDir out t.world.files)
    {world : World α} (hworld : world.files = w.files) {y : Stage α × World α} (halone : y.1 = .start)
    (hfiles : y.2.files = w.files) (now : Time.Instant) :
    Tracks t runId out (s.stepAt r cancelled y now) (s.stepAt r cancelled (.start, world) now) ∧
      (s.stepAt r cancelled (.start, world) now).2.files = t.world.files := by
  rw [stepAt, stepAt, halone, h.opens (v := y.2.timed now) hfiles, h.opens (v := world.timed now) hworld]
  exact ⟨⟨rfl, .opened, hmade, hmade, .refl _ _⟩, rfl⟩

/-- A job takes a step once there is an output directory. -/
theorem Works.stepAt (h : Works s r cancelled w out runId t) (hmade : Ground t.job.outDir out t.world.files)
    {stage : Stage α} {world : World α} (hground : Ground t.job.outDir out world.files)
    {y : Stage α × World α} (hstands : Stands w out runId t stage world y) (now : Time.Instant) :
    Tracks t runId out (s.stepAt r cancelled y now) (s.stepAt r cancelled (stage, world) now) ∧
      ChangesAt (Files.runPlace out runId) world.files (s.stepAt r cancelled (stage, world) now).2.files := by
  rw [Service.stepAt, Service.stepAt]
  cases hstands with
  | waits beside alone files same =>
    rw [beside, alone, h.opens (v := y.2.timed now) files, h.opens_again (v := world.timed now) hground]
    exact ⟨⟨rfl, .opened, hmade, hground, same⟩, .refl _ _⟩
  | goes tracks =>
    obtain ⟨hstage, hcourse, hown, hbeside, hsame⟩ := tracks
    exact h.step ⟨hstage, hcourse, hown, hbeside, hsame⟩ rfl

variable {rs : ι → Request} {cs : ι → Bool} {outDir : Path} {runIds : ι → String} {ts : ι → Ready α}
  {x : Joint ι α} {y : ι → Stage α × World α}

/-- One turn keeps all jobs as they are alone. -/
theorem WorkSideBySide.turn (h : WorkSideBySide s rs cs w outDir out runIds ts)
    (hxy : Together w outDir out runIds ts x y) (b : ι) (now : Time.Instant) :
    Together w outDir out runIds ts (s.turn rs cs x ⟨b, now⟩)
      (Function.update y b (s.stepAt (rs b) (cs b) (y b) now)) := by
  have hworks := h.works b
  have hopened : ∀ a, (ts a).world.files = (w.files.makeDirectories outDir).2 := by
    intro a
    rw [(h.works a).opened_files, h.inOutDir]
  have hmade : Ground outDir out (ts b).world.files := by
    have hown := hworks.ground h.rooted (by rw [h.inOutDir, h.leads])
    rwa [h.inOutDir] at hown
  have hmade' : Ground (ts b).job.outDir out (ts b).world.files := by rwa [h.inOutDir]
  unfold Service.turn
  cases hxy with
  | waiting files beside alone =>
    obtain ⟨htracks, hleft⟩ := hworks.stepAt_first hmade' files (alone b).1 (alone b).2 now
    rw [← beside b] at htracks hleft
    refine .going (hleft ▸ hmade) fun a => ?_
    obtain rfl | hne := eq_or_ne a b
    · simp only [Function.update_self]
      exact .goes htracks
    · simp only [Function.update_of_ne hne]
      refine .waits (beside a) (alone a).1 (alone a).2 ?_
      rw [hleft, hopened a, hopened b]
      exact .refl _ _
  | going ground stands =>
    have hbeside : Ground (ts b).job.outDir out x.world.files := by rwa [h.inOutDir]
    obtain ⟨htracks, hchange⟩ := hworks.stepAt hmade' hbeside (stands b) now
    have hground := htracks.ground'
    rw [h.inOutDir] at hground
    refine .going hground fun a => ?_
    obtain rfl | hne := eq_or_ne a b
    · simp only [Function.update_self]
      exact .goes htracks
    · simp only [Function.update_of_ne hne]
      refine (stands a).changesAt (h.runIds.ne hne) hchange ?_
      rwa [h.inOutDir]

/-- Any number of turns does. -/
theorem WorkSideBySide.turns (h : WorkSideBySide s rs cs w outDir out runIds ts) (turns : List (Turn ι))
    (hxy : Together w outDir out runIds ts x y) :
    Together w outDir out runIds ts (turns.foldl (s.turn rs cs) x)
      fun b => s.stepsAt (rs b) (cs b) (y b) (timesOf b turns) := by
  induction turns generalizing x y with
  | nil => exact hxy
  | cons first rest ih =>
    have hrest := ih (h.turn hxy first.job first.now)
    rw [List.foldl_cons]
    convert hrest using 2 with b
    by_cases hjob : first.job = b
    · subst hjob
      rw [Function.update_self, timesOf, List.filter_cons_of_pos (by simp), List.map_cons]
      rfl
    · rw [Function.update_of_ne (Ne.symm hjob), timesOf, List.filter_cons_of_neg (by simpa using hjob),
        timesOf]

/-- Jobs that look for the finished records of different runs in one output directory do not disturb one
another. After any turns each job is as far as it is alone after its own, and it ends as it does when it
is run if the clock shows the same. -/
theorem turns_apart (h : WorkSideBySide s rs cs w outDir out runIds ts) (turns : List (Turn ι)) (b : ι) :
    (s.turns rs cs w turns).stage b =
        (s.stepsAt (rs b) (cs b) (.start, w) (timesOf b turns)).1 ∧
      (s.clock (rs b) (cs b) w 7 <+: timesOf b turns →
        (s.turns rs cs w turns).stage b = .done (s.run (rs b) (cs b) w).1) := by
  have hstart : Together w outDir out runIds ts ⟨fun _ => .start, w⟩ fun _ => (.start, w) :=
    .waiting rfl (fun _ => rfl) fun _ => ⟨rfl, rfl⟩
  have hstage := (h.turns turns hstart).stage_eq b
  exact ⟨hstage, fun htimes => hstage.trans (stepsAt_eq_run htimes)⟩

/-! ### Two recorders -/

/-- The run and the tool of either job. -/
def ownRun (b : Bool) : String :=
  if b then "r1" else "r2"

def ownPlace (b : Bool) : Location :=
  Files.runPlace ["out"] (ownRun b)

def ownRecord (b : Bool) : Octets :=
  Octets.ofText ("\x7b\"status\":\"ok\",\"title\":\"" ++ ownRun b ++ "\"\x7d")

/-- An agent that leaves a finished record in the directory of its run. -/
def recorder (b : Bool) : Adapter Unit where
  name := ownRun b
  supportsOutputLimits := false
  checkAuth _ c := (.ok (), c)
  run _ c :=
    let files := c.files.leave (ownPlace b) Files.finalRecordName (ownRecord b)
    (.ok "done", { c with files })

def recorders : Service Unit :=
  ⟨⟨[recorder true, recorder false], by decide⟩, fun _ => none⟩

/-- The directories of both runs. -/
def runDirectories : FileTree where
  workDir := []
  entries := [(["out"], .directory), (["out", "artifacts"], .directory),
    (["out", "artifacts", "r1"], .directory), (["out", "artifacts", "r2"], .directory)]

def recorderWorld : World Unit :=
  { emptyWorld with files := runDirectories }

def recorderJob (b : Bool) : Job :=
  { skillJob (some (ownRun b)) with tool := ownRun b }

def recorderReady (b : Bool) : Ready Unit where
  job := recorderJob b
  source := .shopee
  plan := ⟨Prompt.ofSkill ⟨.shopee, .finalRecord⟩ (recorderJob b).url
      (some (ownRun b, Files.artifactDir ⟨"out"⟩ (ownRun b))),
    Plan.modeOf ⟨.shopee, .finalRecord⟩ (recorderJob b)⟩
  adapter := recorder b
  world := (openOutDir (recorderJob b) recorderWorld).2

theorem works_recorder (b : Bool) : Works recorders (recorderJob b).toRequest false recorderWorld ["out"]
    (ownRun b) (recorderReady b) where
  reaches := by
    have hpage : Marketplace.ofUrl "app://shopee.tw/1" = .ok .shopee := by decide +kernel
    have hmade : (runDirectories.makeDirectories ⟨"out"⟩).1 = .ok () := by decide +kernel
    refine ⟨?_, ?_, prepare_eq_ok.mpr ⟨hpage, ?_, rfl⟩⟩
    · cases b <;> decide +kernel
    · refine Prod.ext ?_ rfl
      simp only [openOutDir, recorderReady, recorderJob, recorderWorld, skillJob, hmade, Except.mapError]
    · cases b <;> rfl
  mode := rfl
  check := isolated_pure _ _ _ _
  run := by
    have hup : ".." ∉ Path.names ⟨"out"⟩ := by decide
    have htop : ¬ ownPlace b <+: ["out"] := by cases b <;> decide
    exact isolated_leave hup htop (Except.ok "done") Files.finalRecordName (ownRecord b)

/-- The jobs by turns, while the clock stands still. -/
def alternating : List (Turn Bool) :=
  (List.replicate 7 [⟨true, emptyWorld.now⟩, ⟨false, emptyWorld.now⟩]).flatten

/-- Two agents that leave records of their own. -/
theorem turns_apart_recorders :
    let request := fun b => (recorderJob b).toRequest
    let joint := recorders.turns request (fun _ => false) recorderWorld alternating
    joint.stage true = .done (recorders.run (request true) false recorderWorld).1 ∧
      joint.stage false = .done (recorders.run (request false) false recorderWorld).1 := by
  have hruns : Function.Injective ownRun := by
    intro a b
    cases a <;> cases b <;> decide
  have hleads : (runDirectories.makeDirectories ⟨"out"⟩).2.locate ⟨"out"⟩ = .ok ["out"] := by
    decide +kernel
  have hrooted : runDirectories.Rooted := FileTree.rooted_of_entries (by decide)
  have hside : WorkSideBySide recorders (fun b => (recorderJob b).toRequest) (fun _ => false)
      recorderWorld ⟨"out"⟩ ["out"] ownRun recorderReady :=
    ⟨works_recorder, fun _ => rfl, hruns, hrooted, hleads⟩
  have hclock : ∀ b, recorders.clock (recorderJob b).toRequest false recorderWorld 7 <+:
      timesOf b alternating := by
    intro b
    cases b <;> decide +kernel
  exact ⟨(turns_apart hside alternating true).2 (hclock true),
    (turns_apart hside alternating false).2 (hclock false)⟩

end Service

end ListingCrawl
