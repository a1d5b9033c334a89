import ListingCrawl.Proofs.Artifact.RunDirectory
import ListingCrawl.Proofs.Job.Report

/-! The run of a snapshot. Its directory is that of the pointer's run, else of the run that the request
names; the record has the run of the request, else the pointer's. So the record names the run that its
files are from unless the request and the pointer name different runs. -/

namespace ListingCrawl

open Artifact (SnapshotPointer)

/-- A run that is known is written as a fact. -/
theorem Provenance.get?_fields_runId {p : Provenance} {runId : String} (h : p.runId = some runId) :
    p.fields.get? "run_id" = some (.string runId) :=
  get?_fields_iff.mpr (mem_fields_iff.mpr (.inr (.inr (.inr (.inl ⟨runId, h, rfl, rfl⟩)))))

namespace Service

variable {α : Type} {s : Service α} {r : Request} {w : World α} {t : Ready α} {cancelled : Bool}

/-- A job without an error that looks for a snapshot has taken the record of the pointer in its answer. -/
theorem run_snapshot_taken (h : s.Reaches r w t) {asked : Option String}
    (hmode : t.plan.mode = .snapshotPointer asked) (hok : (s.run r cancelled w).1.isOk = true) :
    ∃ raw p value, (t.asked cancelled).1 = .ok raw ∧
      SnapshotPointer.ofAnswer (t.asked cancelled).2.files t.job.outDir asked raw = .ok p ∧
      p.record (t.asked cancelled).2.files (t.asked cancelled).2.timestamp t.job.url = .ok value ∧
      (s.run r cancelled w).1.record = (t.snapshotFacts cancelled p).stamp
        (value.normalize (t.asked cancelled).2.timestamp t.job.url) := by
  obtain ⟨given, hresults⟩ := results_executed t cancelled
  rw [h.run_eq] at hok ⊢
  obtain ⟨value, htakes, -, hvalue⟩ :=
    taken_of_settle hresults (settle_of_finish (Option.isNone_iff_eq_none.mp hok))
  generalize (t.executed cancelled).2.1 = facts at htakes ⊢
  cases htakes with
  | snapshot mode answer named files =>
    cases hmode.symm.trans mode
    exact ⟨_, _, _, answer, named, files, by rw [finish_record, hvalue]⟩
  | answer mode _ _ _ _ _ => cases hmode.symm.trans mode
  | record mode _ _ => cases hmode.symm.trans mode
  | answerInstead mode _ _ _ _ => cases hmode.symm.trans mode

/-- The two choices of a run, by which the request or the pointer comes first, agree unless both name one
and these differ. -/
theorem choices_agree_iff {asked own : Option String} {run stamped : String}
    (hrun : (own <|> asked) = some run) (hstamped : (asked <|> own) = some stamped) :
    stamped = run ↔ ∀ a b, asked = some a → own = some b → a = b := by
  cases asked with
  | none =>
    cases own with
    | none => cases hrun
    | some b =>
      cases hrun
      cases hstamped
      simp
  | some a =>
    cases own with
    | none =>
      cases hrun
      cases hstamped
      simp
    | some b =>
      cases hrun
      cases hstamped
      simp

/-- In a job without an error that looks for a snapshot, a pointer without a directory and without absolute
files has got the directory of a run, and the record names a run. It is the same run exactly if the request
and the pointer do not name different ones. -/
theorem run_snapshot_runId (h : s.Reaches r w t) {asked : Option String}
    (hmode : t.plan.mode = .snapshotPointer asked) (hok : (s.run r cancelled w).1.isOk = true) :
    asked = t.job.runId ∧ ∃ raw q p value, (t.asked cancelled).1 = .ok raw ∧
      SnapshotPointer.held raw = .ok q ∧
      SnapshotPointer.ofAnswer (t.asked cancelled).2.files t.job.outDir asked raw = .ok p ∧
      p.record (t.asked cancelled).2.files (t.asked cancelled).2.timestamp t.job.url = .ok value ∧
      (s.run r cancelled w).1.record = (t.snapshotFacts cancelled p).stamp
        (value.normalize (t.asked cancelled).2.timestamp t.job.url) ∧
      (Text.isBlankText q.artifactDir = true → q.files.absolutePaths = [] →
        ∃ run stamped, q.run? asked = some run ∧
          p.artifactDir =
            (SnapshotPointer.runDir (t.asked cancelled).2.files t.job.outDir run).text ∧
          (s.run r cancelled w).1.record.get? "run_id" = some (.string stamped) ∧
          (stamped = run ↔ ∀ a b, asked = some a → Text.trimmed? q.runId = some b → a = b)) := by
  obtain ⟨-, -, hplan⟩ := prepare_eq_ok.mp h.prepared
  obtain ⟨raw, p, value, hanswer, hnamed, hvalue, hrecord⟩ := run_snapshot_taken h hmode hok
  have hheld := hnamed
  rw [SnapshotPointer.ofAnswer_eq, bind_eq_ok] at hheld
  obtain ⟨q, hq, hwithDir⟩ := hheld
  refine ⟨Plan.snapshotPointer_of_ofJob hplan hmode, raw, q, p, value, hanswer, hq, hnamed, hvalue, hrecord,
    fun hdir hpaths => ?_⟩
  obtain ⟨run, hrun, hrunDir⟩ := SnapshotPointer.withDir_of_absolutePaths hwithDir hdir hpaths
  obtain ⟨stamped, hstamped⟩ : ∃ stamped, (asked <|> Text.trimmed? q.runId) = some stamped := by
    cases asked with
    | none => exact ⟨run, by simpa [SnapshotPointer.run?] using hrun⟩
    | some a => exact ⟨a, rfl⟩
  have hfact : (t.snapshotFacts cancelled p).runId = some stamped := by
    rw [← hstamped, ← SnapshotPointer.runId_withDir hwithDir, Ready.snapshotFacts, hmode]
    rfl
  refine ⟨run, stamped, hrun, hrunDir, ?_, choices_agree_iff hrun hstamped⟩
  rw [hrecord, Provenance.get?_stamp, Provenance.get?_fields_runId hfact, Option.some_or]

/-! ### A snapshot -/

/-- A job for a skill that takes a snapshot. -/
def snapshotJob (runId : Option String) : Job :=
  { skillJob runId with prompting := .skill (some "shopee-page-snapshot") }

def snapshotReady (runId : Option String) (files : FileTree) (answer : Except AgentError String) :
    Ready (Except AgentError String) where
  job := snapshotJob runId
  source := .shopee
  plan := ⟨Prompt.ofSkill ⟨.shopee, .snapshotPointer⟩ (snapshotJob runId).url
      (runId.map fun runId => (runId, Files.artifactDir ⟨"out"⟩ runId)), .snapshotPointer runId⟩
  adapter := constant "stub"
  world := (openOutDir (snapshotJob runId) (answeringWorld files answer)).2

theorem reaches_snapshotJob {runId : Option String} {files : FileTree}
    (hjob : (snapshotJob runId).toRequest.toJob (fun _ => none) = .ok (snapshotJob runId))
    (hmade : (files.makeDirectories ⟨"out"⟩).1 = .ok ()) (answer : Except AgentError String) :
    (single (constant "stub")).Reaches (snapshotJob runId).toRequest (answeringWorld files answer)
      (snapshotReady runId files answer) where
  job := hjob
  opened := by
    refine Prod.ext ?_ rfl
    simp only [openOutDir, snapshotReady, snapshotJob, skillJob, answeringWorld, hmade, Except.mapError]
  prepared := by
    have hpage : Marketplace.ofUrl "app://shopee.tw/1" = .ok .shopee := by decide +kernel
    have hplan : Plan.ofJob (files.makeDirectories ⟨"out"⟩).2 (snapshotJob runId) .shopee =
        .ok (snapshotReady runId files answer).plan := by
      have hskill : Skill.resolve .shopee (some "shopee-page-snapshot") =
          .ok ⟨.shopee, .snapshotPointer⟩ := by
        decide +kernel
      simp only [Plan.ofJob, snapshotJob, hskill]
      rfl
    exact prepare_eq_ok.mpr ⟨hpage, rfl, hplan⟩

/-- Files with the page state of one run. -/
def snapshotFiles : FileTree where
  workDir := []
  entries := [(["out"], .directory), (["out", "artifacts"], .directory),
    (["out", "artifacts", "snap-1"], .directory),
    (["out", "artifacts", "snap-1", "page_state.json"], .file (Octets.ofText
      "\x7b\"title\":\"T\",\"description\":\"D\",\"currency\":\"TWD\",\"price\":1\x7d"))]

/-- An answer that names this run and its page state. -/
def snapshotAnswer : String :=
  "\x7b\"url\":\"app://shopee.tw/1\",\"status\":\"ok\",\"run_id\":\"snap-1\"," ++
    "\"snapshot_files\":\x7b\"page_state\":\"page_state.json\"\x7d\x7d"

def snapshotHeld : SnapshotPointer :=
  ⟨"app://shopee.tw/1", "ok", "", "snap-1", "", ⟨"", "", "page_state.json", "", "", ""⟩, "", ""⟩

theorem held_snapshotAnswer : SnapshotPointer.held snapshotAnswer = .ok snapshotHeld := by
  decide +kernel

/-- The request names no run. -/
theorem run_snapshot_runId_unasked :
    ((single (constant "stub")).run (snapshotJob none).toRequest false
      (answeringWorld snapshotFiles (.ok snapshotAnswer))).1.record.get? "run_id" =
        some (.string "snap-1") := by
  have hjob : (snapshotJob none).toRequest.toJob (fun _ => none) = .ok (snapshotJob none) := by
    decide +kernel
  have hmade : (snapshotFiles.makeDirectories ⟨"out"⟩).1 = .ok () := by decide +kernel
  have hreaches := reaches_snapshotJob hjob hmade (.ok snapshotAnswer)
  have hok : ((single (constant "stub")).run (snapshotJob none).toRequest false
      (answeringWorld snapshotFiles (.ok snapshotAnswer))).1.isOk = true := by
    decide +kernel
  obtain ⟨-, raw, q, p, value, hanswer, hheld, -, -, -, hdir⟩ := run_snapshot_runId hreaches rfl hok
  cases hanswer
  cases held_snapshotAnswer.symm.trans hheld
  obtain ⟨run, stamped, hrun, -, hstamped, hagree⟩ := hdir (by decide) (by decide)
  obtain rfl : "snap-1" = run := Option.some.inj ((by decide : snapshotHeld.run? none = _).symm.trans hrun)
  obtain rfl : stamped = "snap-1" := hagree.mpr nofun
  exact hstamped

/-- The request names another run than the pointer: the directory is that of the pointer's run, and the record
names the other one. -/
theorem run_snapshot_runId_differs :
    let s := single (constant "stub")
    let w := answeringWorld snapshotFiles (.ok snapshotAnswer)
    (∃ t, s.Reaches (snapshotJob (some "req-1")).toRequest w t ∧
      t.plan.mode = .snapshotPointer (some "req-1") ∧ (t.asked false).1 = .ok snapshotAnswer ∧
      (SnapshotPointer.ofAnswer (t.asked false).2.files t.job.outDir (some "req-1")
        snapshotAnswer).toOption.map SnapshotPointer.artifactDir = some "out/artifacts/snap-1") ∧
    SnapshotPointer.held snapshotAnswer = .ok snapshotHeld ∧
    Text.isBlankText snapshotHeld.artifactDir = true ∧ snapshotHeld.files.absolutePaths = [] ∧
    snapshotHeld.run? (some "req-1") = some "snap-1" ∧
    (s.run (snapshotJob (some "req-1")).toRequest false w).1.isOk = true ∧
    (s.run (snapshotJob (some "req-1")).toRequest false w).1.record.get? "title" = some (.string "T") ∧
    (s.run (snapshotJob (some "req-1")).toRequest false w).1.record.get? "run_id" =
      some (.string "req-1") := by
  have hjob : (snapshotJob (some "req-1")).toRequest.toJob (fun _ => none) =
      .ok (snapshotJob (some "req-1")) := by
    decide +kernel
  have hmade : (snapshotFiles.makeDirectories ⟨"out"⟩).1 = .ok () := by decide +kernel
  exact ⟨⟨_, reaches_snapshotJob hjob hmade (.ok snapshotAnswer), rfl, rfl, by decide +kernel⟩,
    held_snapshotAnswer, by decide, by decide, by decide, by decide +kernel⟩

end Service

end ListingCrawl
