import ListingCrawl.Json.Lexical
import ListingCrawl.Json.Reader
import ListingCrawl.Text.Basic

/-! The JSON object in an agent's answer. Each `{` of the answer may open it. Those outside string
literals come first; the others are tried after them, since a stray brace or quote in prose can make the
scan take text for a literal. A fenced block is searched before the answer as a whole. -/

namespace ListingCrawl.Answer

open Octets Text

/-! ### Fences

Three backticks open a block, the rest of that line names its language, and the next three backticks close
it. -/

/-- Three backticks. -/
def fence : List Char := ['\x60', '\x60', '\x60']

/-- The body of the first fenced block, without its opening line. -/
def fenceBody? (text : List Char) : Option (List Char) := do
  let (_, opened) ← cutAt? fence text
  let (_, body) ← cutAt? ['\n'] opened
  let (inner, _) ← cutAt? fence body
  return inner

/-- The body of the first fenced block of a text. -/
def firstFence? (text : String) : Option String :=
  (fenceBody? text.toList).map String.ofList

/-! ### Objects -/

/-- Every `{` with what follows it, in order. It is marked `true` if it stands outside string literals,
where a quote opens a literal only inside some braces. -/
def braces (q : Json.Quoting) (depth : Nat) : Octets → List (Bool × Octets)
  | [] => []
  | b :: r =>
    match q with
    | .outside =>
      if b = openBrace then (true, b :: r) :: braces .outside (depth + 1) r
      else if b = closeBrace then braces .outside (depth - 1) r
      else if b = quote ∧ depth = 0 then braces .outside depth r
      else braces (Json.Quoting.outside.next b) depth r
    | q =>
      if b = openBrace then (false, b :: r) :: braces (q.next b) depth r
      else braces (q.next b) depth r

/-- The places where an object may start, in the order in which they are tried. -/
def candidates (text : Octets) : List Octets :=
  let all := braces .outside 0 text
  (all.filter (·.1) ++ all.filter (!·.1)).map (·.2)

/-- The object that starts here, whatever follows it. -/
def objectAt? (text : Octets) : Option Fields :=
  match Json.readFirst? text with
  | some (.ok (.object fields, _)) => some fields
  | _ => none

/-- The first object of a text that is accepted. -/
def scanObjects (accept : Fields → Bool) (text : List Char) : Option Fields :=
  (candidates (ofChars text)).findSome? fun s => (objectAt? s).filter accept

/-- The first accepted object of an answer: of its first fenced block, else of the whole. -/
def findObject? (accept : Fields → Bool) (raw : String) : Option Fields :=
  let text := trimChars raw.toList
  (fenceBody? text).bind (scanObjects accept) <|> scanObjects accept text

/-- Does the object have a status that is a text and not blank? -/
def hasStatus (fields : Fields) : Bool :=
  match fields.text? "status" with
  | some status => !isBlankText status
  | none => false

/-- The first object of an answer. -/
def firstObject? (raw : String) : Option Fields :=
  findObject? (fun _ => true) raw

/-- The first object of an answer that has a status. -/
def statusObject? (raw : String) : Option Fields :=
  findObject? hasStatus raw

end ListingCrawl.Answer
