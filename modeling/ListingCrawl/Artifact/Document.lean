import ListingCrawl.Json.Lexical
import ListingCrawl.Json.Reader

/-! The object in an artifact file. A file starts with one object; what follows it is not read. Text
that was taken from a page may leave raw control characters in string literals, so a file is read once
more with those escaped. -/

namespace ListingCrawl.Artifact

/-- Why a file starts with no object. -/
inductive DocumentError where
  | empty
  | notAnObject
  | badJson (error : Json.ReadError)
  deriving DecidableEq, Repr

def DocumentError.message : DocumentError → String
  | empty => "empty JSON document"
  | notAnObject => "top-level JSON is not an object"
  | badJson error => error.message

/-- The object that a document starts with. -/
def readObject (content : Octets) : Except DocumentError Fields :=
  match Json.readFirst? content with
  | none => .error .empty
  | some (.error e) => .error (.badJson e)
  | some (.ok (.object fields, _)) => .ok fields
  | some (.ok _) => .error .notAnObject

/-- Reads a document as it is, or else with control characters escaped. -/
def readEscaped (content : Octets) : Except DocumentError Fields :=
  match readObject content with
  | .ok fields => .ok fields
  | .error _ => readObject (Json.escapeControls content)

end ListingCrawl.Artifact
