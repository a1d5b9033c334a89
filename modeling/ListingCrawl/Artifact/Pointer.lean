import ListingCrawl.Answer.Issue
import ListingCrawl.Files.Path
import ListingCrawl.Files.Tree
import ListingCrawl.Json.Shape

/-! The pointer that a snapshot skill answers with: it names the files that make up the snapshot, and the
directory in which they are. -/

namespace ListingCrawl.Artifact

open Json (Check Shape)

/-! ### Shape -/

/-- The files of a snapshot; an empty name stands for a file that was not taken. -/
structure SnapshotFiles where
  snapshot : String
  pageHtml : String
  pageState : String
  overlayImages : String
  variations : String
  variationImageMap : String
  deriving DecidableEq, Repr

namespace SnapshotFiles

def shape : Shape := .optionalFields "SnapshotFiles" [
  ("snapshot", .text),
  ("page_html", .text),
  ("page_state", .text),
  ("overlay_images", .text),
  ("variations", .text),
  ("variation_image_map", .text)]

def ofFields (fs : Fields) : SnapshotFiles where
  snapshot := (fs.text? "snapshot").getD ""
  pageHtml := (fs.text? "page_html").getD ""
  pageState := (fs.text? "page_state").getD ""
  overlayImages := (fs.text? "overlay_images").getD ""
  variations := (fs.text? "variations").getD ""
  variationImageMap := (fs.text? "variation_image_map").getD ""

/-- The names in the order in which a directory is looked for in them. -/
def all (f : SnapshotFiles) : List String :=
  [f.pageState, f.snapshot, f.pageHtml, f.overlayImages, f.variations, f.variationImageMap]

def absolutePaths (f : SnapshotFiles) : List Path :=
  (f.all.map fun name => Path.mk (Text.trim name)).filter Path.isAbsolute

end SnapshotFiles

structure SnapshotPointer where
  url : String
  status : String
  capturedAt : String
  runId : String
  artifactDir : String
  files : SnapshotFiles
  notes : String
  error : String
  deriving DecidableEq, Repr

/-- Why an answer is no pointer. -/
inductive PointerError where
  | empty
  | noObject (refusal : Answer.Refusal)
  | badShape (mismatch : Json.Mismatch)
  | noUrl | noStatus | noArtifactDir
  deriving DecidableEq

def PointerError.message : PointerError → String
  | empty => "empty snapshot pointer"
  | noObject refusal => "invalid snapshot pointer JSON: " ++ refusal.message
  | badShape mismatch => "invalid snapshot pointer JSON: " ++ mismatch.message
  | noUrl => "snapshot pointer missing url"
  | noStatus => "snapshot pointer missing status"
  | noArtifactDir => "snapshot pointer missing artifact_dir"

namespace SnapshotPointer

def shape : Shape := .optionalFields "SnapshotPointer" [
  ("url", .text),
  ("status", .text),
  ("captured_at", .text),
  ("run_id", .text),
  ("artifact_dir", .text),
  ("snapshot_files", SnapshotFiles.shape.check),
  ("notes", .text),
  ("error", .text)]

def ofFields (fs : Fields) : SnapshotPointer where
  url := (fs.text? "url").getD ""
  status := (fs.text? "status").getD ""
  capturedAt := (fs.text? "captured_at").getD ""
  runId := (fs.text? "run_id").getD ""
  artifactDir := (fs.text? "artifact_dir").getD ""
  files := SnapshotFiles.ofFields <|
    ((fs.get? "snapshot_files").bind fun v => (SnapshotFiles.shape.read v).toOption).getD []
  notes := (fs.text? "notes").getD ""
  error := (fs.text? "error").getD ""

/-- Reads a pointer from its JSON form. -/
def ofJson (v : Json) : Except Json.Mismatch SnapshotPointer :=
  (shape.read v).map ofFields

/-! ### The directory of the files -/

/-- The directory of the first absolute file below a root that is known. -/
def dirOfFiles? (p : SnapshotPointer) (outDir : Path) : Option Path :=
  p.files.absolutePaths.findSome? fun file =>
    if (outDir :: Files.mountRoots).any file.startsWith then file.parent? else none

/-- Where the directory of a run may be. -/
def runDirs (outDir : Path) (runId : String) : List Path :=
  [outDir, ⟨"out"⟩, ⟨"/out"⟩].map (Files.artifactDir · runId)

/-- The directory of a run: the first that exists, else the one in the output directory. -/
def runDir (files : FileTree) (outDir : Path) (runId : String) : Path :=
  ((runDirs outDir runId).find? files.isDirectory).getD (Files.artifactDir outDir runId)

/-- The run that the pointer is about: its own, else the one that was asked for. -/
def run? (p : SnapshotPointer) (asked : Option String) : Option String :=
  Text.trimmed? p.runId <|> asked

/-- The directory of a pointer that names none. -/
def inferDir? (p : SnapshotPointer) (files : FileTree) (outDir : Path) (asked : Option String) :
    Option Path :=
  p.dirOfFiles? outDir <|> (p.run? asked).map (runDir files outDir)

/-- Fills in the directory. Without one, the files have to be absolute. -/
def withDir (p : SnapshotPointer) (files : FileTree) (outDir : Path) (asked : Option String) :
    Except PointerError SnapshotPointer :=
  if !Text.isBlankText p.artifactDir then .ok p
  else
    match p.inferDir? files outDir asked with
    | some dir => .ok { p with artifactDir := dir.text }
    | none => if p.files.absolutePaths.isEmpty then .error .noArtifactDir else .ok p

/-- The pointer in an answer. `asked` is the run id of the request. -/
def ofAnswer (files : FileTree) (outDir : Path) (asked : Option String) (raw : String) :
    Except PointerError SnapshotPointer :=
  if Text.isBlankText raw then .error .empty
  else
    match Answer.firstObject raw with
    | .error refusal => .error (.noObject refusal)
    | .ok fields =>
      match ofJson (.object fields) with
      | .error mismatch => .error (.badShape mismatch)
      | .ok p =>
        if Text.isBlankText p.url then .error .noUrl
        else if Text.isBlankText p.status then .error .noStatus
        else p.withDir files outDir asked

/-! ### Files -/

/-- The path of a file that the pointer names. A name that starts with the directory is not put behind it
once more. -/
def filePath? (p : SnapshotPointer) (name : String) : Option Path :=
  (Text.trimmed? name).map fun name =>
    let file : Path := ⟨name⟩
    if file.isAbsolute then file
    else
      match Text.trimmed? p.artifactDir with
      | none => file
      | some dir =>
        let dir := Path.clean ⟨dir⟩
        let file := file.clean
        if file.startsWith dir then file else dir.join file

end SnapshotPointer

end ListingCrawl.Artifact
