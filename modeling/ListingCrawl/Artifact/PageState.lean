import ListingCrawl.Artifact.Document
import ListingCrawl.Text.Basic

/-! The state of a product page as a file of JSON. Its core fields stand in the member `extracted`, or
at the top. If the file is no JSON as a whole, the object behind the key `extracted` may still be. -/

namespace ListingCrawl.Artifact

/-- What a listing cannot do without. -/
structure CoreFields where
  title : String
  description : String
  currency : String
  price : Json
  deriving DecidableEq

/-- Why a page state gives no core fields. -/
inductive PageStateError where
  | badDocument (error : DocumentError)
  | incomplete
  deriving DecidableEq, Repr

def PageStateError.message : PageStateError → String
  | badDocument error => "invalid page_state.json (must be JSON): " ++ error.message
  | incomplete =>
    "page_state.json missing extracted core fields (title/description/currency/price)"

namespace CoreFields

/-- A member as a text: texts are trimmed, and a number is its token. -/
def textOf (fs : Fields) (key : String) : String :=
  match fs.get? key with
  | some (.string s) => Text.trim s
  | some (.number token) => token
  | _ => ""

def hasPrice (c : CoreFields) : Bool :=
  match c.price with
  | .null => false
  | .string s => !Text.isBlankText s
  | _ => true

def isComplete (c : CoreFields) : Bool :=
  !c.title.isEmpty && !c.description.isEmpty && !c.currency.isEmpty && c.hasPrice

/-- The core fields of an object that has them all. -/
def ofFields? (fs : Fields) : Option CoreFields :=
  let core : CoreFields :=
    { title := textOf fs "title", description := textOf fs "description"
      currency := textOf fs "currency", price := (fs.get? "price").getD .null }
  if core.isComplete then some core else none

/-- The core fields of a page state, whose member `extracted` comes first. -/
def ofDocument? (fs : Fields) : Option CoreFields :=
  let nested := match fs.get? "extracted" with
    | some (.object extracted) => ofFields? extracted
    | _ => none
  nested <|> ofFields? fs

/-! ### Fragments -/

/-- The object behind the first key `extracted`, as it stands in the text. -/
def extractedFragment? (text : Octets) : Option Octets := do
  let (_, afterKey) ← Text.cutAt? (Octets.ofText "\"extracted\"") text
  let (_, value) ← Text.cutAt? [Octets.colon] afterKey
  let (_, inner) ← Text.cutAt? [Octets.openBrace] value
  let object := Octets.openBrace :: inner
  return object.take (← Json.objectEnd? object 0)

/-- The core fields in the fragment of a document that is no JSON as a whole. -/
def ofFragment? (content : Octets) : Option CoreFields := do
  let fragment ← extractedFragment? (Octets.ofText content.toTextLossy)
  ofFields? (← (readObject (Json.escapeControls fragment)).toOption)

/-! ### Page states -/

/-- The core fields of a page state. -/
def ofPageState (content : Octets) : Except PageStateError CoreFields :=
  match readEscaped content with
  | .ok fs =>
    match ofDocument? fs with
    | some core => .ok core
    | none => .error .incomplete
  | .error e =>
    match ofFragment? content with
    | some core => .ok core
    | none => .error (.badDocument e)

end CoreFields

end ListingCrawl.Artifact
