import ListingCrawl.Agent.Basic
import ListingCrawl.Answer.Issue
import ListingCrawl.Artifact.FinalRecord
import ListingCrawl.Artifact.Snapshot
import ListingCrawl.Job.Basic
import ListingCrawl.Prompt.Basic
import ListingCrawl.Record.Contract

/-! How a job can fail. The message of an error stands in the stored record, so it says all by itself
what happened. -/

namespace ListingCrawl

/-- Why an agent's answer was not accepted. -/
inductive Rejection where
  | extraction (issue : Answer.Issue)
  | contract (violations : List Violation)
  deriving DecidableEq

def Rejection.message : Rejection → String
  | extraction issue => issue.message
  | contract violations => "contract violations: " ++ Violation.summary violations

/-- What is wrong with a job before any agent is asked. -/
inductive InputError where
  | request (error : RequestError)
  | page (error : Marketplace.Unknown)
  | tool (found : String) (available : List String)
  | template (error : Prompt.TemplateError)
  | skill (error : Skill.Unknown)
  deriving DecidableEq, Repr

def InputError.message : InputError → String
  | request error => error.message
  | page error => error.message
  | tool found available =>
    "unsupported tool " ++ Text.quoted found ++ " (available: " ++ ", ".intercalate available ++ ")"
  | template error => error.message
  | skill error => error.message

/-- Why nothing could be taken from what an agent answered. -/
inductive ExtractionError where
  | unrepaired (tool : String) (first : Rejection) (issue : Answer.Issue)
  | pointer (error : Artifact.PointerError)
  | snapshotStatus (found : String)
  | noPageState
  | failedSnapshot (detail : Option String)
  deriving DecidableEq

/-- The words for something that says itself that it failed. -/
def failedText (what : String) (detail : Option String) : String :=
  what ++ " has status error" ++ match detail with
    | some detail => ": " ++ detail
    | none => ""

def ExtractionError.message : ExtractionError → String
  | unrepaired tool first issue =>
    "no contract object in " ++ tool ++ " output: " ++ first.message ++ "; repair failed: " ++
      issue.message
  | pointer error => error.message
  | snapshotStatus found => "unsupported snapshot status: " ++ Text.quoted found
  | noPageState => "snapshot pointer missing snapshot_files.page_state"
  | failedSnapshot detail => failedText "snapshot pointer" detail

/-- Why a result could not be stored. -/
inductive StoreError where
  | noParent (file : Path)
  | createParent (dir : Path) (error : FileError)
  | write (file : Path) (error : FileError)
  | rename (file : Path) (error : FileError)
  deriving DecidableEq, Repr

def StoreError.message : StoreError → String
  | noParent file => "path has no parent: " ++ file.text
  | createParent dir error => "create parent dir: " ++ dir.text ++ ": " ++ error.message
  | write file error => "write tmp: " ++ file.text ++ ": " ++ error.message
  | rename file error => "rename tmp to final: " ++ file.text ++ ": " ++ error.message

/-- What is wrong with a file or a directory. A failure of the agent's run is told with it if the run
should have written the file. -/
inductive ArtifactError where
  | createOutDir (error : FileError)
  | store (error : StoreError)
  | readPageState (error : FileError)
  | pageState (error : Artifact.PageStateError)
  | finalRecord (error : Artifact.FinalRecordError) (run : Option AgentError)
  | failedRecord (detail : Option String) (run : Option AgentError)
  | noFinalRecord (run : Option AgentError)
  deriving DecidableEq

/-- A message with the failure of a run behind it. -/
def withRunError (message : String) : Option AgentError → String
  | some e => message ++ " (tool error: " ++ e.message ++ ")"
  | none => message

def ArtifactError.message : ArtifactError → String
  | createOutDir error => "create out dir: " ++ error.message
  | store error => error.message
  | readPageState error => "read page_state: " ++ error.message
  | pageState error => error.message
  | finalRecord error run => withRunError error.message run
  | failedRecord detail run => withRunError (failedText "final record" detail) run
  | noFinalRecord run => withRunError "final record not found" run

inductive CrawlError where
  | input (cause : InputError)
  | execution (tool : String) (cause : AgentError)
  | extraction (cause : ExtractionError)
  | artifact (path : Path) (cause : ArtifactError)
  /-- The violations; after a repair also why the first answer was not accepted. -/
  | contract (violations : List Violation) (first : Option Rejection)
  deriving DecidableEq

namespace CrawlError

def kind : CrawlError → String
  | input _ => "input"
  | execution _ _ => "execution"
  | extraction _ => "extraction"
  | artifact _ _ => "artifact"
  | contract _ _ => "contract"

def message : CrawlError → String
  | input cause => "invalid crawl request: " ++ cause.message
  | execution tool cause => tool ++ " execution failed: " ++ cause.message
  | extraction cause => cause.message
  | artifact path cause => "artifact " ++ path.text ++ ": " ++ cause.message
  | contract violations first =>
    "output contract validation failed: " ++ Violation.summary violations ++ match first with
      | some first => " (after repair; original: " ++ first.message ++ ")"
      | none => ""

/-- The error of a job whose snapshot gives no record. -/
def ofSnapshot : Artifact.SnapshotError → CrawlError
  | .badStatus found => extraction (.snapshotStatus found)
  | .noPageState => extraction .noPageState
  | .unreadable file error => artifact file (.readPageState error)
  | .badPageState file error => artifact file (.pageState error)

end CrawlError

end ListingCrawl
