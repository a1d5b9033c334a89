import ListingCrawl.Proofs.Job.Outcome
import ListingCrawl.Proofs.Job.Ready

/-! Jobs whose result is the record that a run leaves in its directory. If there is one, it alone decides
how the job ends. Two runs that leave the same files end alike whatever their agents answer; a failure of
the agent is only told, in the message of an error and under a key of its own. -/

namespace ListingCrawl

/-- The path that an error is about. -/
def CrawlError.path? : CrawlError → Option Path
  | .artifact path _ => some path
  | _ => none

/-- Two errors differ at most in their messages. -/
structure CrawlError.Alike (e e' : CrawlError) : Prop where
  kind : e'.kind = e.kind
  path : e'.path? = e.path?

theorem CrawlError.alike_artifact (path : Path) (cause cause' : ArtifactError) :
    (artifact path cause).Alike (artifact path cause') :=
  ⟨rfl, rfl⟩

/-- Two outcomes are of one kind, with records that agree but for the key that tells a failure of the agent
if there is no error. -/
structure Outcome.Alike (o o' : Outcome) : Prop where
  isOk : o'.isOk = o.isOk
  kind : o'.error.map CrawlError.kind = o.error.map CrawlError.kind
  path : o'.error.bind CrawlError.path? = o.error.bind CrawlError.path?
  storedAt : o'.storedAt = o.storedAt
  record : o.isOk = true → o'.record.erase "tool_error" = o.record.erase "tool_error"

/-- Two results are the same, or fail alike. -/
inductive SameResult : Except Failure Record → Except Failure Record → Prop where
  | ok (r : Record) : SameResult (.ok r) (.ok r)
  | error {e e' : CrawlError} (h : e.Alike e') (r : Option Record) :
    SameResult (.error ⟨e, r⟩) (.error ⟨e', r⟩)

/-! ### Taking the record -/

namespace Recovery

/-- The result of a run that left a finished record; a failure of the run is only told with another. -/
def ofRecord (files : FileTree) (now url : String) (dir : Path) (run : Option AgentError) :
    Except Failure Record × Option ResultSource :=
  match Artifact.finalRecord files dir with
  | .error e => (.error ⟨.artifact (Artifact.finalRecordFile dir) (.finalRecord e run), none⟩, none)
  | .ok r =>
    let r := r.normalize now url
    (if r.isError then
        .error ⟨.artifact (Artifact.finalRecordFile dir) (.failedRecord (errorDetail r) run), some r⟩
      else .ok r, some .artifactFinal)

/-- Where there is a record, nothing of an answer is used but its failure. -/
theorem finalRecord_eq_ofRecord {files : FileTree} {dir : Path}
    (hexists : files.exists? (Artifact.finalRecordFile dir) = true) (now url : String)
    (answer : Except AgentError String) :
    finalRecord files now url dir answer = ofRecord files now url dir (error? answer) := by
  unfold finalRecord
  rw [if_pos hexists]
  cases answer <;> rfl

theorem ofRecord_sameResult (files : FileTree) (now url : String) (dir : Path)
    (run run' : Option AgentError) :
    SameResult (ofRecord files now url dir run).1 (ofRecord files now url dir run').1 ∧
      (ofRecord files now url dir run').2 = (ofRecord files now url dir run).2 := by
  unfold ofRecord
  cases Artifact.finalRecord files dir with
  | error e => exact ⟨.error (CrawlError.alike_artifact _ _ _) none, rfl⟩
  | ok r =>
    dsimp only
    split
    · exact ⟨.error (CrawlError.alike_artifact _ _ _) _, rfl⟩
    · exact ⟨.ok _, rfl⟩

end Recovery

namespace Service

variable {α : Type}

/-! ### Ending with the record -/

theorem settle_sameResult {x x' : Except Failure Record} (h : SameResult x x') (now url : String) :
    (settle now url x').2.map CrawlError.kind = (settle now url x).2.map CrawlError.kind ∧
      (settle now url x').2.bind CrawlError.path? = (settle now url x).2.bind CrawlError.path? ∧
      ((settle now url x).2 = none → (settle now url x').1 = (settle now url x).1) := by
  cases h with
  | ok r => exact ⟨rfl, rfl, fun _ => rfl⟩
  | error halike r =>
    cases r with
    | none => exact ⟨congrArg some halike.kind, halike.path, nofun⟩
    | some r => exact ⟨congrArg some halike.kind, halike.path, nofun⟩

theorem unstored_sameResult {x x' : Except Failure Record} (h : SameResult x x') (now : String)
    (j : Job) (p : Provenance) (e e' : Option AgentError) :
    (unstored now j x { p with toolError := e }).Alike
      (unstored now j x' { p with toolError := e' }) := by
  obtain ⟨hkind, hpath, hrecord⟩ := settle_sameResult h now j.url
  refine ⟨?_, hkind, hpath, rfl, fun hok => ?_⟩
  · have hsome := congrArg Option.isNone hkind
    simpa [unstored, Outcome.isOk] using hsome
  · have hnone : (settle now j.url x).2 = none := by simpa [unstored, Outcome.isOk] using hok
    simp only [unstored, hrecord hnone]
    rw [p.erase_stamp_toolError e, p.erase_stamp_toolError e']

/-- The outcome of a job that ends with a record, by the files and the failure that its agent leaves. -/
def recordOutcome (j : Job) (dir : Path) (p : Provenance) (files : FileTree) (now : String)
    (run : Option AgentError) : Outcome :=
  unstored now j (Recovery.ofRecord files now j.url dir run).1
    { p with
      resultSource := (Recovery.ofRecord files now j.url dir run).2
      toolError := run }

theorem recordOutcome_alike (j : Job) (dir : Path) (p : Provenance) (files : FileTree) (now : String)
    (run run' : Option AgentError) :
    (recordOutcome j dir p files now run).Alike (recordOutcome j dir p files now run') := by
  obtain ⟨hresult, hsource⟩ := Recovery.ofRecord_sameResult files now j.url dir run run'
  rw [recordOutcome, recordOutcome, hsource]
  exact unstored_sameResult hresult now j
    { p with resultSource := (Recovery.ofRecord files now j.url dir run).2 } run run'

theorem Reaches.run_finalRecord {s : Service α} {r : Request} {w : World α} {t : Ready α}
    (h : s.Reaches r w t) {runId : String} {dir : Path} (hmode : t.plan.mode = .finalRecord runId dir)
    {cancelled : Bool}
    (hexists : (t.asked cancelled).2.files.exists? (Artifact.finalRecordFile dir) = true) :
    (s.run r cancelled w).1 = recordOutcome t.job dir (t.facts cancelled) (t.asked cancelled).2.files
      (t.asked cancelled).2.timestamp (error? (t.asked cancelled).1) := by
  rw [h.run_finalRecord_eq hmode, runFinalRecord]
  unfold Ready.asked at hexists ⊢
  generalize (t.checked cancelled).2.ask t.adapter (t.invocation cancelled) = left at hexists ⊢
  obtain ⟨answer, after⟩ := left
  dsimp only at hexists ⊢
  rw [finish_of_not_isStored rfl, Recovery.finalRecord_eq_ofRecord hexists]
  cases answer <;> rfl

/-! ### Two runs -/

/-- Two runs of a job whose agents leave the same files, with a finished record among them, end alike
whatever the agents answer. They end the same if the agents fail with the same error or not at all. -/
theorem run_finalRecord_alike {s : Service α} {r : Request} {w w' : World α} {t t' : Ready α}
    (h : s.Reaches r w t) (h' : s.Reaches r w' t') (hfiles : w'.files = w.files) {runId : String}
    {dir : Path} (hmode : t.plan.mode = .finalRecord runId dir) {cancelled cancelled' : Bool}
    (hcheck : (t'.checked cancelled').1 = (t.checked cancelled).1)
    (hleft : (t'.asked cancelled').2.files = (t.asked cancelled).2.files)
    (hnow : (t'.asked cancelled').2.now = (t.asked cancelled).2.now)
    (hexists : (t.asked cancelled).2.files.exists?
      (Artifact.finalRecordFile (Files.artifactDir t.job.outDir runId)) = true) :
    (s.run r cancelled w).1.Alike (s.run r cancelled' w').1 ∧
      (error? (t'.asked cancelled').1 = error? (t.asked cancelled).1 →
        (s.run r cancelled' w').1 = (s.run r cancelled w).1) := by
  obtain ⟨hjob, hsource, hplan, -, -⟩ := h.unique h' hfiles
  have hmode' : t'.plan.mode = .finalRecord runId dir := by rw [hplan, hmode]
  have hfacts : t'.facts cancelled' = t.facts cancelled := by
    simp only [Ready.facts, hjob, hsource, hplan, hcheck]
  have htime : (t'.asked cancelled').2.timestamp = (t.asked cancelled).2.timestamp :=
    congrArg Time.Instant.rfc3339 hnow
  have hexists' : (t'.asked cancelled').2.files.exists? (Artifact.finalRecordFile dir) = true := by
    rw [hleft, (h.dir_eq hmode).2, hexists]
  rw [← (h.dir_eq hmode).2] at hexists
  rw [h.run_finalRecord hmode hexists, h'.run_finalRecord hmode' hexists', hjob, hfacts, htime, hleft]
  exact ⟨recordOutcome_alike _ _ _ _ _ _ _, fun herror => by rw [herror]⟩

/-- Files with the finished record of one run. -/
def recordedFiles : FileTree where
  workDir := []
  entries := [(["out"], .directory), (["out", "artifacts"], .directory),
    (["out", "artifacts", "r1"], .directory),
    (["out", "artifacts", "r1", "final.json"], .file (Octets.ofText "\x7b\"status\":\"ok\"\x7d"))]

/-- One agent answers with a text and the other fails. -/
theorem run_finalRecord_alike_failedAgent :
    ((single (constant "stub")).run (skillJob (some "r1")).toRequest false
      (answeringWorld recordedFiles (.ok "done"))).1.Alike
    ((single (constant "stub")).run (skillJob (some "r1")).toRequest false
      (answeringWorld recordedFiles (.error ⟨["exit code 1"]⟩))).1 := by
  have hjob : (skillJob (some "r1")).toRequest.toJob (fun _ => none) = .ok (skillJob (some "r1")) := by
    decide +kernel
  have hmade : (recordedFiles.makeDirectories ⟨"out"⟩).1 = .ok () := by decide +kernel
  have hexists : (recordedFiles.makeDirectories ⟨"out"⟩).2.exists?
      (Artifact.finalRecordFile (Files.artifactDir ⟨"out"⟩ "r1")) = true := by
    decide +kernel
  have hreaches := reaches_skillJob hjob hmade
  exact (run_finalRecord_alike (hreaches (.ok "done")) (hreaches (.error ⟨["exit code 1"]⟩))
    rfl rfl rfl rfl rfl hexists).1

end Service

end ListingCrawl
