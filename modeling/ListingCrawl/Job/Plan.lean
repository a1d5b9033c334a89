import ListingCrawl.Job.Error

/-! What is decided about a job before an agent is asked: the marketplace, the agent, the prompt, and
where the result will be found. -/

namespace ListingCrawl

/-- Where the result of a job is found. -/
inductive Mode where
  /-- The agent's answer is the result. -/
  | direct
  /-- The pipeline leaves the result in the directory of its run. -/
  | finalRecord (runId : String) (dir : Path)
  /-- The agent's answer names the files that make up the result. -/
  | snapshotPointer (runId : Option String)
  deriving DecidableEq, Repr

namespace Mode

def runId? : Mode → Option String
  | direct => none
  | finalRecord runId _ => some runId
  | snapshotPointer runId => runId

/-- Is the result written to a result file? -/
def writesResultFile : Mode → Bool
  | direct => true
  | _ => false

end Mode

structure Plan where
  prompt : String
  mode : Mode
  deriving DecidableEq, Repr

namespace Plan

/-- The mode of a job with a skill. A finished record is looked for only if the run is known. -/
def modeOf (skill : Skill) (j : Job) : Mode :=
  match skill.reconcile, j.runId with
  | .finalRecord, some runId => .finalRecord runId (Files.artifactDir j.outDir runId)
  | .finalRecord, none => .direct
  | .snapshotPointer, runId => .snapshotPointer runId

/-- The plan of a job on a page of this marketplace. -/
def ofJob (files : FileTree) (j : Job) (m : Marketplace) : Except InputError Plan :=
  match j.prompting with
  | .legacy file =>
    match Prompt.ofTemplate files (file.getD m.promptFile) j.url with
    | .error e => .error (.template e)
    | .ok prompt => .ok ⟨prompt, .direct⟩
  | .skill name =>
    match Skill.resolve m name with
    | .error e => .error (.skill e)
    | .ok skill =>
      let run := j.runId.map fun runId => (runId, Files.artifactDir j.outDir runId)
      .ok ⟨Prompt.ofSkill skill j.url run, modeOf skill j⟩

end Plan

end ListingCrawl
