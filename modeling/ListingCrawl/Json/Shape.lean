import ListingCrawl.Json.Reader
import ListingCrawl.Text.Quoted

/-! Checking that a value has the shape of a structure. A structure is written as an object with its
fields as members, in any order and among others, or as an array of its fields in declaration order. -/

namespace ListingCrawl.Json

/-- How a value misses the shape that is asked for. -/
inductive Mismatch where
  | wrongType (found : Json) (expected : String)
  | badNumber
  | badNumeral (error : ReadError)
  | missingField (name : String)
  | tooFewItems (count : Nat) (expected : String)
  | tooManyItems (count : Nat)
  | tooManyMembers (count : Nat)
  deriving DecidableEq

/-- A value as error messages name it. -/
def describe : Json → String
  | .null => "null"
  | .bool b => "boolean `" ++ toString b ++ "`"
  | .number _ => "number"
  | .string s => "string " ++ Text.quoted s
  | .array _ => "sequence"
  | .object _ => "map"

def Mismatch.message : Mismatch → String
  | wrongType found expected => "invalid type: " ++ found.describe ++ ", expected " ++ expected
  | badNumber => "invalid number"
  | badNumeral error => error.message
  | missingField name => "missing field `" ++ name ++ "`"
  | tooFewItems count expected => "invalid length " ++ toString count ++ ", expected " ++ expected
  | tooManyItems count =>
    "invalid length " ++ toString count ++ ", expected fewer elements in array"
  | tooManyMembers count =>
    "invalid length " ++ toString count ++ ", expected fewer elements in map"

/-- A test of a value's shape. -/
abbrev Check := Json → Except Mismatch Unit

namespace Check

def text : Check
  | .string _ => .ok ()
  | v => .error (.wrongType v "a string")

def path : Check
  | .string _ => .ok ()
  | v => .error (.wrongType v "path string")

def flag : Check
  | .bool _ => .ok ()
  | v => .error (.wrongType v "a boolean")

/-- An integer of 64 bits with sign. -/
def integer : Check
  | .number token => if (int64? token).isSome then .ok () else .error .badNumber
  | v => .error (.wrongType v "i64")

/-- Null, or what `check` accepts. -/
def optional (check : Check) : Check
  | .null => .ok ()
  | v => check v

/-- An array whose items all pass; the first that does not is reported. -/
def list (check : Check) : Check
  | .array items => items.forM check
  | v => .error (.wrongType v "a sequence")

end Check

/-- A field of a structure. -/
structure Field where
  name : String
  check : Check
  required : Bool

/-- A structure as it is named in messages, with its fields in declaration order. -/
structure Shape where
  name : String
  fields : List Field

namespace Shape

/-- A structure none of whose fields is required. -/
def optionalFields (name : String) (fields : List (String × Check)) : Shape :=
  ⟨name, fields.map fun (name, check) => ⟨name, check, false⟩⟩

def checkMember (s : Shape) (m : String × Json) : Except Mismatch Unit :=
  match s.fields.find? (·.name == m.1) with
  | some field => field.check m.2
  | none => .ok ()

/-- Checks the members in their order, then whether a required one is missing. -/
def readObject (s : Shape) (members : Fields) : Except Mismatch Fields := do
  members.forM s.checkMember
  match s.fields.find? fun f => f.required && !members.contains f.name with
  | some field => .error (.missingField field.name)
  | none => .ok members

/-- Checks the items against the fields in declaration order, then the length. -/
def readArray (s : Shape) (items : List Json) : Except Mismatch Fields := do
  (s.fields.zip items).forM fun (field, v) => field.check v
  match (s.fields.drop items.length).findIdx? (·.required) with
  | some i =>
    .error (.tooFewItems (items.length + i)
      ("struct " ++ s.name ++ " with " ++ toString s.fields.length ++ " elements"))
  | none =>
    if items.length ≤ s.fields.length then .ok ((s.fields.map (·.name)).zip items)
    else .error (.tooManyItems items.length)

/-- The fields of a value that has the shape. -/
def read (s : Shape) : Json → Except Mismatch Fields
  | .object members => s.readObject members
  | .array items => s.readArray items
  | v => .error (.wrongType v ("struct " ++ s.name))

def check (s : Shape) : Check := fun v => (s.read v).map fun _ => ()

end Shape

end ListingCrawl.Json
