/-! Paths as texts, with the lexical operations on them: no operation asks a file system. Repeated
separators and inner `.` parts do not count when paths are compared or taken apart. -/

namespace ListingCrawl

/-- A path as it was written. -/
structure Path where
  text : String
  deriving DecidableEq, Repr, Inhabited

/-- A part of a path that counts. `here` stands only at the start of a relative path. -/
inductive Component where
  | root | here | up
  | name (n : String)
  deriving DecidableEq, Repr

namespace Path

/-- The pieces of a text between separators. -/
def pieces (text : List Char) : List (List Char) :=
  text.splitOn '/'

def isAbsolute (p : Path) : Bool :=
  p.text.toList.head? == some '/'

/-- The component that an inner piece stands for. -/
def pieceComponent? (piece : List Char) : Option Component :=
  if piece = [] ∨ piece = ['.'] then none
  else if piece = ['.', '.'] then some .up
  else some (.name (String.ofList piece))

def components (p : Path) : List Component :=
  let ps := pieces p.text.toList
  (if p.isAbsolute then [.root] else if ps.head? = some ['.'] then [.here] else []) ++
    ps.filterMap pieceComponent?

/-- Do the components of `p` start with those of `q`? -/
def startsWith (p q : Path) : Bool :=
  q.components.isPrefixOf p.components

/-- `q` behind `p`; an absolute `q` replaces `p`, and an empty one leaves a separator at the end. -/
def join (p q : Path) : Path :=
  if q.isAbsolute then q
  else
    let cs := p.text.toList
    if cs.isEmpty || cs.getLast? == some '/' then ⟨p.text ++ q.text⟩
    else ⟨p.text ++ "/" ++ q.text⟩

/-- Pieces written with separators between them. -/
def ofPieces (ps : List (List Char)) : Path :=
  ⟨String.ofList (List.intercalate ['/'] ps)⟩

/-- The text of a component inside a path. -/
def Component.piece : Component → List Char
  | .root => []
  | .here => ['.']
  | .up => ['.', '.']
  | .name n => n.toList

/-- The path that has just these components. -/
def ofComponents : List Component → Path
  | [.root] => ⟨"/"⟩
  | cs => ofPieces (cs.map Component.piece)

/-- The same components but `.`, with single separators. -/
def clean (p : Path) : Path :=
  ofComponents (p.components.filter (· ≠ .here))

/-! ### Parents -/

/-- Drops pieces at the end that are no components, down to `keep` pieces. -/
def trimPieces (keep : Nat) (ps : List (List Char)) : List (List Char) :=
  let kept := ps.take keep
  kept ++ ((ps.drop keep).reverse.dropWhile fun p => (pieceComponent? p).isNone).reverse

/-- The path without its last component; what is left stays as it was written. -/
def parent? (p : Path) : Option Path :=
  let ps := pieces p.text.toList
  let keep := if p.isAbsolute || ps.head? == some ['.'] then 1 else 0
  let trimmed := trimPieces keep ps
  if trimmed.length ≤ keep then
    if p.isAbsolute || keep = 0 then none else some ⟨""⟩
  else
    let rest := trimPieces keep trimmed.dropLast
    if p.isAbsolute && rest.length = 1 then some ⟨"/"⟩ else some (ofPieces rest)

end Path

/-! ### Where files are

Each run has a directory of its own, named by its run id, below the artifacts of the output directory;
containers mount some directories at the root. -/

namespace Files

/-- The directory of a run. -/
def artifactDir (outDir : Path) (runId : String) : Path :=
  (outDir.join ⟨"artifacts"⟩).join ⟨runId⟩

/-- The file in a run's directory that holds its finished record. -/
def finalRecordName : String := "final.json"

/-- Directories that a container shares with its agents. -/
def mountRoots : List Path := [⟨"/out"⟩, ⟨"/app"⟩, ⟨"/gemini"⟩, ⟨"/codex"⟩]

end Files

end ListingCrawl
