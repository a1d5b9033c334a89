import ListingCrawl.Url.Address
import ListingCrawl.Url.Percent

/-! The path of a URL as a list of segments: `.` and `..` are resolved while it is read, also where their
dots are percent-encoded. -/

namespace ListingCrawl.Url

/-- How a scheme governs the rest of a URL. -/
inductive SchemeKind where
  | file | special | other
  deriving DecidableEq, Repr

/-- A letter and a colon or a bar. -/
def isDriveLetter : List Char → Bool
  | [c, d] => c.isAlpha && (d == ':' || d == '|')
  | _ => false

/-- The segment with each percent-encoded dot resolved. -/
def resolveDots : List Char → List Char
  | '%' :: '2' :: 'e' :: r | '%' :: '2' :: 'E' :: r => '.' :: resolveDots r
  | c :: r => c :: resolveDots r
  | [] => []

/-- Leaves out the last segment; a drive letter stays. -/
def shorten (segments : List (List Char)) : List (List Char) :=
  if segments.getLast?.any isDriveLetter then segments else segments.dropLast

/-- Appends a segment to a path. The last one of a path also counts if it is only dots: the path then ends
with an empty segment. A drive letter that starts the path of a file is written with a colon. -/
def addSegment (kind : SchemeKind) (path : List (List Char)) (isLast : Bool) (segment : List Char) :
    List (List Char) :=
  let closed (path : List (List Char)) := if isLast then path ++ [[]] else path
  if resolveDots segment = ['.', '.'] then closed (shorten path)
  else if resolveDots segment = ['.'] then closed path
  else if kind = .file ∧ path = [] ∧ isDriveLetter segment then [segment.take 1 ++ [':']]
  else path ++ [segment]

/-- Resolves the segments of a path. -/
def resolveSegments (kind : SchemeKind) (path : List (List Char)) :
    List (List Char) → List (List Char)
  | [] => path
  | [s] => addSegment kind path true s
  | s :: t :: r => resolveSegments kind (addSegment kind path false s) (t :: r)

/-- The segments of the text of a path, whose first separator may be missing. -/
def pathSegments (kind : SchemeKind) (text : List Char) : List (List Char) :=
  let text := if kind = .other then text else text.map fun c => if c = '\\' then '/' else c
  let raw := (if text.head? = some '/' then text.tail else text).splitOn '/'
  resolveSegments kind [] (raw.map (percentEncode inPathSet))

/-- Segments with a separator before each. -/
def pathText (segments : List (List Char)) : List Char :=
  segments.flatMap ('/' :: ·)

/-- The text of a file's path, which starts with a single separator. -/
def filePathText (segments : List (List Char)) : List Char :=
  '/' :: (pathText segments).dropWhile (· = '/')

end ListingCrawl.Url
