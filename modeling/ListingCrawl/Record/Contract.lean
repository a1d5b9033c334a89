import ListingCrawl.Json.Printer
import ListingCrawl.Json.Settled
import ListingCrawl.Json.Shape
import ListingCrawl.Record.Basic
import ListingCrawl.Time.Rfc3339

/-! The output contract. A record conforms if it reads as a `Listing` and the listing has no violations;
keys outside the contract do not count. -/

namespace ListingCrawl

/-- An option of a product that can be bought. -/
structure Variation where
  title : Option String
  position : Option Int
  image : Option String
  images : Option (List String)
  deriving DecidableEq, Repr

namespace Variation

open Json (Check Shape)

def shape : Shape := .optionalFields "Variation" [
  ("title", .optional .text),
  ("position", .optional .integer),
  ("image", .optional .text),
  ("images", .optional (.list .text))]

def ofFields (fs : Fields) : Variation where
  title := fs.text? "title"
  position := match fs.get? "position" with
    | some (.number token) => Json.int64? token
    | _ => none
  image := fs.text? "image"
  images := match fs.get? "images" with
    | some (.array items) => some (items.filterMap Json.text?)
    | _ => none

def read (v : Json) : Except Json.Mismatch Variation :=
  (shape.read v).map ofFields

end Variation

/-- The part of a record that the contract is about. -/
structure Listing where
  url : Option String
  status : Option String
  capturedAt : Option String
  notes : Option String
  error : Option String
  title : Option String
  description : Option String
  currency : Option String
  price : Option Json
  images : Option (List Json)
  variations : Option (List Variation)
  deriving DecidableEq

/-- A way in which a record breaks the contract. -/
inductive Violation where
  | shape (mismatch : Json.Mismatch)
  | noUrl
  | badStatus (found : String)
  | noCaptureTime
  | badCaptureTime (found : String)
  | noNotes
  | noError
  | badPrice (found : Json)
  | noTitle (variation : Nat)
  | negativePosition (variation : Nat)
  deriving DecidableEq

namespace Violation

def message : Violation → String
  | shape mismatch => "decode: " ++ mismatch.message
  | noUrl => "url: required"
  | badStatus found =>
    "status: must be one of ok, needs_manual, error (got " ++ Text.quoted found ++ ")"
  | noCaptureTime => "captured_at: required"
  | badCaptureTime found => "captured_at: not an RFC3339 timestamp (" ++ Text.quoted found ++ ")"
  | noNotes => "notes: required when status=needs_manual"
  | noError => "error: required when status=error"
  | badPrice found => "price: must be a number or numeric string (got " ++ found.compact ++ ")"
  | noTitle i => "variations[" ++ toString i ++ "].title: required"
  | negativePosition i => "variations[" ++ toString i ++ "].position: must be >= 0"

/-- Several violations in one message. -/
def summary (vs : List Violation) : String :=
  "; ".intercalate (vs.map message)

end Violation

/-- One or more digits, and perhaps a point and one or more digits. -/
def isNumericText (s : String) : Bool :=
  let digits (cs : List Char) := !cs.isEmpty && cs.all Char.isDigit
  match s.toList.span (· != '.') with
  | (whole, []) => digits whole
  | (whole, _ :: fraction) => digits whole && digits fraction

namespace Listing

open Json (Check Shape)

def shape : Shape := .optionalFields "CrawlOut" [
  ("url", .optional .text),
  ("status", .optional .text),
  ("captured_at", .optional .text),
  ("notes", .optional .text),
  ("error", .optional .text),
  ("title", .optional .text),
  ("description", .optional .text),
  ("currency", .optional .text),
  ("price", .value),
  ("images", .optional (.list .value)),
  ("variations", .optional (.list Variation.shape.check))]

def ofFields (fs : Fields) : Listing where
  url := fs.text? "url"
  status := fs.text? "status"
  capturedAt := fs.text? "captured_at"
  notes := fs.text? "notes"
  error := fs.text? "error"
  title := fs.text? "title"
  description := fs.text? "description"
  currency := fs.text? "currency"
  price := ((fs.get? "price").filter fun v => !v.isNull).bind fun v => v.settle.toOption
  images := match fs.get? "images" with
    | some (.array items) => some (items.filterMap fun v => v.settle.toOption)
    | _ => none
  variations := match fs.get? "variations" with
    | some (.array items) => some (items.filterMap fun v => (Variation.read v).toOption)
    | _ => none

/-- The listing in a record, if the fields have the types of the contract. -/
def ofRecord (r : Record) : Except Json.Mismatch Listing :=
  (shape.read r.toJson).map ofFields

/-! ### Violations -/

/-- Missing, or a text of blanks only. -/
def isMissing : Option String → Bool
  | none => true
  | some s => Text.isBlankText s

def statusText (l : Listing) : String :=
  Text.trim (l.status.getD "")

def captureViolations (l : Listing) : List Violation :=
  match l.capturedAt.bind Text.trimmed? with
  | none => [.noCaptureTime]
  | some t => if Time.isRfc3339 t then [] else [.badCaptureTime t]

def isPrice : Json → Bool
  | .null | .number _ => true
  | .string s => isNumericText (Text.trim s)
  | _ => false

def priceViolations (l : Listing) : List Violation :=
  match l.price with
  | some v => if isPrice v then [] else [.badPrice v]
  | none => []

def variationViolations (i : Nat) (v : Variation) : List Violation :=
  (if isMissing v.title then [.noTitle i] else []) ++
    (if v.position.any (· < 0) then [.negativePosition i] else [])

/-- What the contract asks beyond types, in order. -/
def violations (l : Listing) : List Violation :=
  (if isMissing l.url then [.noUrl] else []) ++
  (if (Status.ofName? l.statusText).isNone then [.badStatus l.statusText] else []) ++
  l.captureViolations ++
  (if l.statusText = Status.needsManual.name ∧ isMissing l.notes then [.noNotes] else []) ++
  (if l.statusText = Status.error.name ∧ isMissing l.error then [.noError] else []) ++
  l.priceViolations ++
  ((l.variations.getD []).mapIdx variationViolations).flatten

/-! ### Written form -/

def variationJson (v : Variation) : Json :=
  let text := fun (s : Option String) => (s.map Json.string).getD .null
  .object ([("title", text v.title),
    ("position", (v.position.map fun n => Json.number (toString n)).getD .null)] ++
    (v.image.map fun s => ("image", Json.string s)).toList ++
    (v.images.map fun is => ("images", Json.array (is.map .string))).toList)

/-- A listing with all its keys; what is missing is null. -/
def toJson (l : Listing) : Json :=
  let text := fun (s : Option String) => (s.map Json.string).getD .null
  .object [("url", text l.url), ("status", text l.status), ("captured_at", text l.capturedAt),
    ("notes", text l.notes), ("error", text l.error), ("title", text l.title),
    ("description", text l.description), ("currency", text l.currency),
    ("price", l.price.getD .null), ("images", (l.images.map Json.array).getD .null),
    ("variations", (l.variations.map fun vs => Json.array (vs.map variationJson)).getD .null)]

end Listing

namespace Record

/-- The listing of a record that keeps the contract, else all violations. -/
def validate (r : Record) : Except (List Violation) Listing :=
  match Listing.ofRecord r with
  | .error mismatch => .error [.shape mismatch]
  | .ok listing =>
    match listing.violations with
    | [] => .ok listing
    | vs => .error vs

end Record

end ListingCrawl
