import ListingCrawl.Files.Path
import ListingCrawl.Text.Octets

/-! A tree of files and directories, with the operations that the program needs and the errors that
they meet. A location is the list of names from the root; the root is always a directory. -/

namespace ListingCrawl

/-- Why an operation on files failed. -/
inductive FileError where
  | notFound | permissionDenied | alreadyExists | notDirectory | isDirectory | nameTooLong
  | nulInName | notUtf8 | noParent
  deriving DecidableEq, Repr

def FileError.message : FileError → String
  | notFound => "No such file or directory (os error 2)"
  | permissionDenied => "Permission denied (os error 13)"
  | alreadyExists => "File exists (os error 17)"
  | notDirectory => "Not a directory (os error 20)"
  | isDirectory => "Is a directory (os error 21)"
  | nameTooLong => "File name too long (os error 36)"
  | nulInName => "file name contained an unexpected NUL byte"
  | notUtf8 => "stream did not contain valid UTF-8"
  | noParent => "failed to create whole tree"

/-- The names from the root to a place in the tree. -/
abbrev Location := List String

inductive Entry where
  | directory
  | file (content : Octets)
  deriving DecidableEq

/-- Entries below the root, and the directory in which relative paths start. -/
structure FileTree where
  workDir : Location
  entries : List (Location × Entry)

namespace FileTree

def entry? (t : FileTree) (l : Location) : Option Entry :=
  if l = [] then some .directory else t.entries.lookup l

def isDirectoryAt (t : FileTree) (l : Location) : Bool :=
  t.entry? l == some .directory

/-! ### Finding -/

def maxName : Nat := 255

/-- Follows names from a location. All but the last must lead to directories. -/
def follow (t : FileTree) (l : Location) : List String → Except FileError Location
  | [] => .ok l
  | n :: ns =>
    match t.entry? l with
    | none => .error .notFound
    | some (.file _) => .error .notDirectory
    | some .directory =>
      if n = "" ∨ n = "." then t.follow l ns
      else if n = ".." then t.follow l.dropLast ns
      else if n.utf8ByteSize > maxName then .error .nameTooLong
      else t.follow (l ++ [n]) ns

/-- The names that a path gives to follow, and where to start. -/
def steps (t : FileTree) (p : Path) : Location × List String :=
  (if p.isAbsolute then [] else t.workDir, (Path.pieces p.text.toList).map String.ofList)

/-- The place that a path names, whether or not something is there. -/
def locate (t : FileTree) (p : Path) : Except FileError Location :=
  if p.text.toList.contains '\x00' then .error .nulInName
  else if p.text = "" then .error .notFound
  else
    let (start, names) := t.steps p
    t.follow start names

/-- What a path names. -/
def stat (t : FileTree) (p : Path) : Except FileError Entry := do
  let l ← t.locate p
  match t.entry? l with
  | some e => .ok e
  | none => .error .notFound

def isDirectory (t : FileTree) (p : Path) : Bool :=
  match t.stat p with
  | .ok .directory => true
  | _ => false

def exists? (t : FileTree) (p : Path) : Bool :=
  match t.stat p with
  | .ok _ => true
  | .error _ => false

/-- The content of a file. -/
def read (t : FileTree) (p : Path) : Except FileError Octets := do
  match ← t.stat p with
  | .file content => .ok content
  | .directory => .error .isDirectory

/-- The content of a file that holds text. -/
def readText (t : FileTree) (p : Path) : Except FileError String := do
  match (← t.read p).toText? with
  | some s => .ok s
  | none => .error .notUtf8

/-! ### Changing -/

/-- Is `l` the location `top` or below it? -/
def isWithin (top l : Location) : Bool :=
  top.isPrefixOf l

/-- Removes what is at a location, with all that is below it. -/
def remove (t : FileTree) (l : Location) : FileTree :=
  { t with entries := t.entries.filter fun e => !isWithin l e.1 }

/-- Puts one entry at a location, in place of what was there. -/
def set (t : FileTree) (l : Location) (e : Entry) : FileTree :=
  { t with entries := (t.entries.filter fun x => x.1 ≠ l) ++ [(l, e)] }

/-- Makes a location and all above it directories where there is nothing yet. -/
def ensureDirectories (t : FileTree) (l : Location) : FileTree :=
  (List.range (l.length + 1)).foldl
    (fun t n => if (t.entry? (l.take n)).isSome then t else t.set (l.take n) .directory) t

/-- Puts an entry at a location with the directories above it; a tree that was there is replaced. -/
def place (t : FileTree) (l : Location) (e : Entry) : FileTree :=
  ((t.remove l).ensureDirectories l.dropLast).set l e

/-- The place that a new entry of this path would take, in a directory that exists. -/
def locateNew (t : FileTree) (p : Path) : Except FileError Location := do
  if p.text.toList.contains '\x00' then throw .nulInName
  let (start, names) := t.steps p
  let names := (names.reverse.dropWhile (· = "")).reverse
  match names.getLast? with
  | none => throw (if p.isAbsolute then .alreadyExists else .notFound)
  | some last =>
    let dir ← t.follow start names.dropLast
    match t.entry? dir with
    | none => throw .notFound
    | some (.file _) => throw .notDirectory
    | some .directory =>
      if last = "." then return dir
      else if last = ".." then return dir.dropLast
      else if last.utf8ByteSize > maxName then throw .nameTooLong
      else return dir ++ [last]

/-- Makes one directory. -/
def makeDirectory (t : FileTree) (p : Path) : Except FileError FileTree := do
  let l ← t.locateNew p
  if (t.entry? l).isSome then throw .alreadyExists
  return t.set l .directory

/-- Makes a directory and those above it that are missing; at most `fuel` of them. What was made stays
also when a later one fails. -/
def makeDirectoriesFrom : Nat → FileTree → Path → Except FileError Unit × FileTree
  | 0, t, _ => (.error .noParent, t)
  | fuel + 1, t, p =>
    if p.text = "" then (.ok (), t)
    else
      match t.makeDirectory p with
      | .ok t => (.ok (), t)
      | .error .notFound =>
        match p.parent? with
        | none => (.error .noParent, t)
        | some above =>
          match makeDirectoriesFrom fuel t above with
          | (.error e, t) => (.error e, t)
          | (.ok (), t) =>
            match t.makeDirectory p with
            | .ok t => (.ok (), t)
            | .error e => (if t.isDirectory p then .ok () else .error e, t)
      | .error e => (if t.isDirectory p then .ok () else .error e, t)

/-- Makes a directory with all those above it. -/
def makeDirectories (t : FileTree) (p : Path) : Except FileError Unit × FileTree :=
  makeDirectoriesFrom (p.text.length + 1) t p

/-- Writes a file, new or in place of an old one. -/
def write (t : FileTree) (p : Path) (content : Octets) : Except FileError FileTree := do
  let l ← t.locateNew p
  if t.isDirectoryAt l then throw .isDirectory
  return t.set l (.file content)

/-- Gives a file another name; a file of that name is replaced. -/
def rename (t : FileTree) (old new : Path) : Except FileError FileTree := do
  let l ← t.locate old
  let m ← t.locateNew new
  match t.entry? l with
  | none => throw .notFound
  | some e =>
    if t.isDirectoryAt m then throw .isDirectory
    return (t.remove l).set m e

/-- All files with their locations. -/
def files (t : FileTree) : List (Location × Octets) :=
  t.entries.filterMap fun (l, e) =>
    match e with
    | .file content => some (l, content)
    | .directory => none

end FileTree

end ListingCrawl
