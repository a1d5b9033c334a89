import ListingCrawl.Job.Error
import ListingCrawl.Job.Provenance
import ListingCrawl.Record.Normal

/-! The record of a job from what its agent answered and the files that it left. -/

namespace ListingCrawl

/-- A failed job: its error, and the record if the failure came with one. -/
structure Failure where
  error : CrawlError
  record : Option Record
  deriving DecidableEq

namespace Recovery

/-- The record in an answer, if it keeps the contract. -/
def acceptDirect (now url raw : String) : Except Rejection Record :=
  match Answer.statusObject raw with
  | .error _ => .error (.extraction (Answer.diagnose raw))
  | .ok fields =>
    let r := Record.normalize now url ⟨fields⟩
    match r.validate with
    | .error violations => .error (.contract violations)
    | .ok _ => .ok r

/-- What a failed record says about its failure. -/
def errorDetail (r : Record) : Option String :=
  (r.text? "error").bind Text.trimmed?

/-! ### Finished records -/

/-- The result of a run that should have left a finished record. The record counts more than the agent's
answer; the answer is taken only if there is no record. -/
def finalRecord (files : FileTree) (now url : String) (dir : Path)
    (answer : Except AgentError String) : Except Failure Record × Option ResultSource :=
  let file := Artifact.finalRecordFile dir
  let run := match answer with
    | .error e => some e
    | .ok _ => none
  if files.exists? file then
    match Artifact.finalRecord files dir with
    | .error e => (.error ⟨.artifact file (.finalRecord e run), none⟩, none)
    | .ok r =>
      let r := r.normalize now url
      (if r.isError then .error ⟨.artifact file (.failedRecord (errorDetail r) run), some r⟩
        else .ok r, some .artifactFinal)
  else
    match answer.toOption.bind fun raw => (acceptDirect now url raw).toOption with
    | some r => (.ok r, some .toolOutput)
    | none => (.error ⟨.artifact file (.noFinalRecord run), none⟩, none)

/-! ### Snapshots -/

/-- The record of a snapshot. -/
def snapshot (files : FileTree) (now url : String) (p : Artifact.SnapshotPointer) :
    Except Failure Record :=
  match p.record files now url with
  | .error e => .error ⟨.ofSnapshot e, none⟩
  | .ok r =>
    let r := r.normalize now url
    if r.isError then .error ⟨.extraction (.failedSnapshot (errorDetail r)), some r⟩ else .ok r

end Recovery

end ListingCrawl
