import ListingCrawl.Job.Error
import ListingCrawl.Json.Printer
import ListingCrawl.Text.Basic

/-! Result files. A record is written to a file of its own in the output directory, first under a
temporary name, so that a reader never sees half of it. -/

namespace ListingCrawl.ResultFile

/-- The last `width` hexadecimal digits of `n`. -/
def hexTail : Nat → Nat → List Char
  | 0, _ => []
  | width + 1, n => hexTail width (n / 16) ++ [Nat.digitChar (n % 16)]

/-- The name of a result file without its ending: time, marketplace and a fresh number. -/
def baseName (now : Time.Instant) (source : Option Marketplace) (fresh : Nat) : String :=
  now.stamp ++ "_" ++ (source.map Marketplace.name).getD "unknown" ++ "_" ++
    String.ofList (hexTail 8 fresh)

def path (outDir : Path) (base : String) : Path :=
  outDir.join ⟨base ++ ".json"⟩

def temporaryPath (outDir : Path) (base : String) (fresh : Nat) : Path :=
  outDir.join ⟨base ++ ".tmp." ++ String.ofList (hexTail 32 fresh)⟩

/-- What a result file holds. -/
def content (r : Record) : Octets :=
  Octets.ofText (Json.pretty r.toJson ++ "\n")

/-- Writes a file by way of a temporary one. -/
def writeVia (files : FileTree) (temporary file : Path) (content : Octets) :
    Except StoreError Unit × FileTree :=
  match files.write temporary content with
  | .error e => (.error (.write temporary e), files)
  | .ok files =>
    match files.rename temporary file with
    | .error e => (.error (.rename file e), files)
    | .ok files => (.ok (), files)

/-- Writes a file with the directories above it. -/
def writeBelow (files : FileTree) (temporary file : Path) (content : Octets) :
    Except StoreError Unit × FileTree :=
  match file.parent? with
  | none => (.error (.noParent file), files)
  | some dir =>
    match files.makeDirectories dir with
    | (.error e, files) => (.error (.createParent dir e), files)
    | (.ok (), files) => writeVia files temporary file content

variable {α : Type}

/-- Stores a record and gives the path of its file. -/
def store (outDir : Path) (source : Option Marketplace) (r : Record) (w : World α) :
    Except StoreError Path × World α :=
  let base := baseName w.now source w.fresh
  let file := path outDir base
  let (result, files) := writeBelow w.files (temporaryPath outDir base w.fresh) file (content r)
  (result.map fun _ => file, { w with files, fresh := w.fresh + 1 })

end ListingCrawl.ResultFile
