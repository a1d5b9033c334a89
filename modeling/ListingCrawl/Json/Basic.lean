import ListingCrawl.Text.Basic

/-! JSON values. A number is its source token and an object keeps its keys in order; the operations on
`Fields` treat a list of entries as a map, with the first entry of a key as the one that counts. One key is
reserved: where a value is decoded, an object that begins with it is not an object but holds a number. -/

namespace ListingCrawl

/-- A JSON value. The token of a number is kept as it was written. -/
inductive Json where
  | null
  | bool (b : Bool)
  | number (token : String)
  | string (text : String)
  | array (items : List Json)
  | object (fields : List (String × Json))
  deriving Inhabited

/-- The entries of an object in order. -/
abbrev Fields := List (String × Json)

namespace Fields

def get? (fs : Fields) (key : String) : Option Json :=
  fs.lookup key

def contains (fs : Fields) (key : String) : Bool :=
  (fs.get? key).isSome

def keys (fs : Fields) : List String :=
  fs.map (·.1)

/-- Gives `key` the value `v`: in its place if it is there, else at the end. -/
def insert (fs : Fields) (key : String) (v : Json) : Fields :=
  if fs.contains key then fs.map fun e => if e.1 = key then (key, v) else e
  else fs ++ [(key, v)]

/-- Removes `key`; the others keep their order. -/
def erase (fs : Fields) (key : String) : Fields :=
  fs.filter fun e => e.1 ≠ key

/-- The map of entries as they were read: of a repeated key the last value counts, in the first place. -/
def ofEntries (es : List (String × Json)) : Fields :=
  es.foldl (fun fs e => fs.insert e.1 e.2) []

/-- The text under `key`, if there is one. -/
def text? (fs : Fields) (key : String) : Option String :=
  match fs.get? key with
  | some (.string s) => some s
  | _ => none

/-- The reserved key. As the first of an object it stands before the text of a number. -/
def numberKey : String := "$serde_json::private::Number"

/-- Does an object with these entries hold a number? -/
def holdsNumber (fs : Fields) : Bool :=
  fs.head?.any (·.1 == numberKey)

end Fields

namespace Json

def isNull : Json → Bool
  | .null => true
  | _ => false

def text? : Json → Option String
  | .string s => some s
  | _ => none

/-- The member `key` of an object. -/
def get? (v : Json) (key : String) : Option Json :=
  match v with
  | .object fs => Fields.get? fs key
  | _ => none

/-- The value of an integer token. -/
def int? (token : String) : Option Int :=
  match token.toList with
  | '-' :: ds => (Text.decimal? ds).map fun n => -n
  | ds => (Text.decimal? ds).map fun n => n

/-- The value of an integer token that fits 64 bits with sign. -/
def int64? (token : String) : Option Int :=
  (int? token).filter fun n => -9223372036854775808 ≤ n && n ≤ 9223372036854775807

/-! ### Equality -/

mutual

def decEq : (a b : Json) → Decidable (a = b)
  | .null, .null => isTrue rfl
  | .bool a, .bool b => decidable_of_iff (a = b) (by simp)
  | .number a, .number b => decidable_of_iff (a = b) (by simp)
  | .string a, .string b => decidable_of_iff (a = b) (by simp)
  | .array a, .array b => have := decEqItems a b; decidable_of_iff (a = b) (by simp)
  | .object a, .object b => have := decEqFields a b; decidable_of_iff (a = b) (by simp)
  | .null, .bool _ | .null, .number _ | .null, .string _ | .null, .array _ | .null, .object _
  | .bool _, .null | .bool _, .number _ | .bool _, .string _ | .bool _, .array _ | .bool _, .object _
  | .number _, .null | .number _, .bool _ | .number _, .string _ | .number _, .array _
  | .number _, .object _ | .string _, .null | .string _, .bool _ | .string _, .number _
  | .string _, .array _ | .string _, .object _ | .array _, .null | .array _, .bool _
  | .array _, .number _ | .array _, .string _ | .array _, .object _ | .object _, .null
  | .object _, .bool _ | .object _, .number _ | .object _, .string _ | .object _, .array _ =>
    isFalse (by simp)

def decEqItems : (a b : List Json) → Decidable (a = b)
  | [], [] => isTrue rfl
  | a :: as, b :: bs =>
    have := decEq a b
    have := decEqItems as bs
    decidable_of_iff (a = b ∧ as = bs) (by simp)
  | [], _ :: _ | _ :: _, [] => isFalse (by simp)

def decEqFields : (a b : List (String × Json)) → Decidable (a = b)
  | [], [] => isTrue rfl
  | (k, a) :: as, (l, b) :: bs =>
    have := decEq a b
    have := decEqFields as bs
    decidable_of_iff (k = l ∧ a = b ∧ as = bs) (by simp [and_assoc])
  | [], _ :: _ | _ :: _, [] => isFalse (by simp)

end

instance : DecidableEq Json := decEq

end Json

end ListingCrawl
