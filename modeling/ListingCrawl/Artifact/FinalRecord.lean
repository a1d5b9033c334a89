import ListingCrawl.Answer.Issue
import ListingCrawl.Artifact.Document
import ListingCrawl.Files.Path
import ListingCrawl.Files.Tree
import ListingCrawl.Record.Basic

/-! The finished record that a pipeline leaves in its run's directory. -/

namespace ListingCrawl.Artifact

/-- Why there is no finished record. -/
inductive FinalRecordError where
  | unreadable (error : FileError)
  | noObject (refusal : Answer.Refusal)
  deriving DecidableEq, Repr

def FinalRecordError.message : FinalRecordError → String
  | unreadable error => "read " ++ Files.finalRecordName ++ ": " ++ error.message
  | noObject refusal => "final record is not a JSON object with status: " ++ refusal.message

/-- The record in the content of a file: the object that it starts with, or else the first object with a
status in it. -/
def recordOf (content : Octets) : Except FinalRecordError Record :=
  match readEscaped content with
  | .ok fields => .ok ⟨fields⟩
  | .error _ =>
    match Answer.statusObject content.toTextLossy with
    | .ok fields => .ok ⟨fields⟩
    | .error refusal => .error (.noObject refusal)

def finalRecordFile (dir : Path) : Path :=
  dir.join ⟨Files.finalRecordName⟩

/-- Reads the finished record of a run. -/
def finalRecord (files : FileTree) (dir : Path) : Except FinalRecordError Record :=
  match files.read (finalRecordFile dir) with
  | .error e => .error (.unreadable e)
  | .ok content => recordOf content

end ListingCrawl.Artifact
