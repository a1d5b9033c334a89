import ListingCrawl.Artifact.PageState
import ListingCrawl.Artifact.Pointer
import ListingCrawl.Record.Basic
import ListingCrawl.Record.Images

/-! The record that the files of a snapshot add up to. Only the page state has to be there; the lists of
images and variations are used as far as they can be read. -/

namespace ListingCrawl.Artifact

/-- Why a snapshot gives no record. -/
inductive SnapshotError where
  | badStatus (found : String)
  | noPageState
  | unreadable (file : Path) (error : FileError)
  | badPageState (file : Path) (error : PageStateError)
  deriving DecidableEq, Repr

/-! ### Lists -/

/-- The list in a document: at the top or under `key`. -/
def listOf (key : String) : Json → List Json
  | .array items => items
  | .object fields =>
    match Fields.get? fields key with
    | some (.array items) => items
    | _ => []
  | _ => []

/-- The list in the content of a file, empty if there is none. -/
def readList (key : String) (content : Octets) : List Json :=
  match Json.readDocument content with
  | .ok v => listOf key v
  | .error _ => []

/-- The distinct images of a file. -/
def readImages (content : Octets) : List String :=
  Images.ofJson (.array (readList "images" content))

/-- A variation of a snapshot, with its place on the page. -/
structure Choice where
  title : String
  position : Int
  deriving DecidableEq, Repr

/-- An item of the list of variations; one without text is left out. -/
def Choice.ofJson? (v : Json) : Option Choice := do
  let title ← Text.trimmed? (← (← v.get? "text").text?)
  let position := match v.get? "position" with
    | some (.number token) => (Json.int64? token).getD 0
    | _ => 0
  return { title, position }

/-- The variations of a file. -/
def readChoices (content : Octets) : List Choice :=
  (readList "variations" content).filterMap Choice.ofJson?

/-- The first text under one of the keys that is not blank. -/
def firstText? (v : Json) (keys : List String) : Option String :=
  keys.findSome? fun key => (v.get? key).bind fun t => t.text?.bind Text.trimmed?

/-- A variation's title and image, in one of two spellings. -/
def imageOfChoice? (v : Json) : Option (String × String) := do
  return (← firstText? v ["text", "variation"], ← firstText? v ["imageUrl", "image"])

/-- The images of variations by title; of several the first counts. -/
def readImageMap (content : Octets) : List (String × String) :=
  (readList "map" content).filterMap imageOfChoice?

def Choice.toJson (images : List (String × String)) (c : Choice) : Json :=
  let named := [("title", Json.string c.title), ("position", .number (toString c.position))]
  match images.lookup c.title with
  | some image => .object (named ++ [("image", .string image), ("images", .array [.string image])])
  | none => .object (named ++ [("images", .array [])])

/-! ### Records -/

namespace SnapshotPointer

def manualNotes : String := "blocked or requires manual intervention"

def failedError : String := "snapshot failed"

/-- The content of a file that need not be there. -/
def readOptional? (p : SnapshotPointer) (files : FileTree) (name : String) : Option Octets :=
  (p.filePath? name).bind fun file => (files.read file).toOption

/-- Address, status and capture time. -/
def header (p : SnapshotPointer) (now url : String) : Record :=
  ((Record.empty.insertText "url" ((Text.trimmed? p.url).getD (Text.trim url))).insertText
    "status" (Text.trim p.status)).insertText "captured_at" ((Text.trimmed? p.capturedAt).getD now)

/-- Puts empty lists into a record that has no snapshot. -/
def withoutLists (r : Record) : Record :=
  (r.insert "images" (.array [])).insert "variations" (.array [])

/-- The core fields of the page state. -/
def core (p : SnapshotPointer) (files : FileTree) : Except SnapshotError CoreFields :=
  match p.filePath? p.files.pageState with
  | none => .error .noPageState
  | some file =>
    match files.read file with
    | .error e => .error (.unreadable file e)
    | .ok content =>
      match CoreFields.ofPageState content with
      | .error e => .error (.badPageState file e)
      | .ok core => .ok core

def images (p : SnapshotPointer) (files : FileTree) : List String :=
  ((p.readOptional? files p.files.overlayImages).map readImages).getD []

def choices (p : SnapshotPointer) (files : FileTree) : List Choice :=
  ((p.readOptional? files p.files.variations).map readChoices).getD []

def imageMap (p : SnapshotPointer) (files : FileTree) : List (String × String) :=
  ((p.readOptional? files p.files.variationImageMap).map readImageMap).getD []

/-- Puts what the files say into a record. -/
def withFiles (p : SnapshotPointer) (files : FileTree) (core : CoreFields) (r : Record) : Record :=
  (((((r.insertText "title" core.title).insertText "description" core.description).insertText
    "currency" core.currency).insert "price" core.price).insert
    "images" (Images.toJson (p.images files))).insert
    "variations" (.array ((p.choices files).map (Choice.toJson (p.imageMap files))))

/-- The record of a pointer; `url` is used if the pointer names none. -/
def record (p : SnapshotPointer) (files : FileTree) (now url : String) :
    Except SnapshotError Record :=
  let header := p.header now url
  match Status.ofName? (Text.trim p.status) with
  | some .needsManual =>
    .ok (withoutLists (header.insertText "notes" ((Text.trimmed? p.notes).getD manualNotes)))
  | some .error =>
    .ok (withoutLists (header.insertText "error" ((Text.trimmed? p.error).getD failedError)))
  | some .ok => (p.core files).map fun core => p.withFiles files core header
  | none => .error (.badStatus (Text.trim p.status))

end SnapshotPointer

end ListingCrawl.Artifact
