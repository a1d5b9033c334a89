import ListingCrawl.Json.Basic
import ListingCrawl.Text.Basic

/-! Lists of image references: the texts of a list, trimmed, blank ones and repetitions left out. -/

namespace ListingCrawl.Images

/-- The first occurrence of each text, in order. -/
def distinct (images : List String) : List String :=
  images.eraseDups

/-- The values in an image field: a list's items, or one text as a list of its own. -/
def items : Json → List Json
  | .array vs => vs
  | .string s => [.string s]
  | _ => []

/-- The distinct images of a field, trimmed and not blank. -/
def ofJson (v : Json) : List String :=
  distinct ((items v).filterMap fun v => v.text?.bind Text.trimmed?)

/-- An image field that can be normalized: missing, null, a list or a text. -/
def isField : Option Json → Bool
  | none | some .null | some (.array _) | some (.string _) => true
  | _ => false

def toJson (images : List String) : Json :=
  .array (images.map .string)

end ListingCrawl.Images
