import Mathlib.Computability.RegularExpressions
import ListingCrawl.Json.Basic

/-! JSON schemas, as far as the output contract is written in their language. A schema is itself JSON: an
object of keywords, each of which asks something of a value or of its parts. All that a value misses is
listed with its place, so that it can be said how far a value is from conforming. Keywords that describe
and do not ask, such as a format, have no faults. -/

namespace ListingCrawl.Schema

/-! ### Patterns -/

/-- One of the characters from `first` to `last`. -/
def between (first last : Char) : RegularExpression Char :=
  ((List.range' first.toNat (last.toNat + 1 - first.toNat)).map fun n => .char (Char.ofNat n)).sum

/-- Characters that mean something else than themselves. -/
def isSpecial (c : Char) : Bool :=
  c ∈ ['\\', '^', '$', '.', '*', '+', '?', '(', ')', '[', ']', '{', '}', '|']

/-- Reads a pattern behind the sequences that are still open. The innermost sequence comes first, and in
each sequence the last part. -/
def readParts : List Char → List (List (RegularExpression Char)) → Option (RegularExpression Char)
  | [], [parts] => some parts.reverse.prod
  | '[' :: first :: '-' :: last :: ']' :: cs, parts :: rest =>
    readParts cs ((between first last :: parts) :: rest)
  | '(' :: cs, rest => readParts cs ([] :: rest)
  | ')' :: cs, inner :: parts :: rest => readParts cs ((inner.reverse.prod :: parts) :: rest)
  | '+' :: cs, (e :: parts) :: rest => readParts cs (((e * e.star) :: parts) :: rest)
  | '?' :: cs, (e :: parts) :: rest => readParts cs (((e + 1) :: parts) :: rest)
  | '\\' :: c :: cs, parts :: rest => readParts cs ((.char c :: parts) :: rest)
  | c :: cs, parts :: rest => if isSpecial c then none else readParts cs ((.char c :: parts) :: rest)
  | _, _ => none

/-- The expression of a pattern for whole texts. -/
def readPattern (pattern : String) : Option (RegularExpression Char) :=
  match pattern.toList with
  | '^' :: cs => if cs.getLast? = some '$' then readParts cs.dropLast [[]] else none
  | _ => none

/-- Does the text as a whole match the pattern? -/
def isMatch (pattern s : String) : Bool :=
  (readPattern pattern).any (·.rmatch s.toList)

theorem mem_matches'_sum {es : List (RegularExpression Char)} {cs : List Char} :
    cs ∈ es.sum.matches' ↔ ∃ e ∈ es, cs ∈ e.matches' := by
  induction es with
  | nil => simp
  | cons e es ih =>
    rw [List.sum_cons, RegularExpression.matches'_add, Language.mem_add, ih]
    simp

theorem mem_between {first last c : Char} (hfirst : first.toNat ≤ c.toNat)
    (hlast : c.toNat ≤ last.toNat) : [c] ∈ (between first last).matches' := by
  refine mem_matches'_sum.mpr ⟨.char c, List.mem_map.mpr ⟨c.toNat, ?_, ?_⟩, rfl⟩
  · rw [List.mem_range'_1]
    omega
  · rw [Char.ofNat_toNat]

/-- One or more texts that match. -/
theorem mem_repeated {e : RegularExpression Char} {cs : List Char} (hne : cs ≠ [])
    (h : ∀ c ∈ cs, [c] ∈ e.matches') : cs ∈ (e * e.star).matches' := by
  obtain ⟨c, cs, rfl⟩ := List.exists_cons_of_ne_nil hne
  obtain ⟨hhead, htail⟩ := List.forall_mem_cons.mp h
  have hflat : cs = (cs.map fun c => [c]).flatten := by
    rw [← List.flatMap_def, List.flatMap_singleton']
  rw [RegularExpression.matches'_mul, RegularExpression.matches'_star, Language.mem_mul]
  refine ⟨[c], hhead, cs, Language.mem_kstar.mpr ⟨_, hflat, ?_⟩, rfl⟩
  intro part hpart
  obtain ⟨d, hd, rfl⟩ := List.mem_map.mp hpart
  exact htail d hd

/-! ### Faults -/

/-- From a value to a part of it. -/
inductive Step where
  | member (key : String)
  | item (index : Nat)
  deriving DecidableEq, Repr

/-- What a value misses: where, of which keyword, and what is there. -/
structure Fault where
  place : List Step
  keyword : String
  found : Option Json
  deriving DecidableEq

/-- The fault of a part, seen from the whole. -/
def Fault.within (step : Step) (f : Fault) : Fault :=
  { f with place := step :: f.place }

/-- Is the value of the type of this name? -/
def isOfType (v : Json) (name : String) : Bool :=
  match v with
  | .null => name == "null"
  | .bool _ => name == "boolean"
  | .number token => name == "number" || (name == "integer" && (Json.int? token).isSome)
  | .string _ => name == "string"
  | .array _ => name == "array"
  | .object _ => name == "object"

/-- The texts of an array, or one text. -/
def names : Json → List String
  | .string s => [s]
  | .array items => items.filterMap Json.text?
  | _ => []

/-- Is a number not below the bound? A number with a fraction or an exponent is not compared, and is taken
to be below it. -/
def isAtLeast (bound v : Json) : Bool :=
  match bound, v with
  | .number bound, .number token =>
    match Json.int? bound, Json.int? token with
    | some m, some n => m ≤ n
    | _, _ => false
  | _, .number _ => false
  | _, _ => true

/-- Does the value keep a keyword that is about the value as a whole? -/
def keeps (keyword : String) (argument v : Json) : Bool :=
  match keyword with
  | "type" => (names argument).any (isOfType v)
  | "enum" =>
    match argument with
    | .array allowed => v ∈ allowed
    | _ => false
  | "minimum" => isAtLeast argument v
  | "pattern" =>
    match argument, v with
    | .string pattern, .string s => isMatch pattern s
    | _, .string _ => false
    | _, _ => true
  | _ => true

/-- The members that an object does not have. -/
def missing (keys : List String) : Json → List Fault
  | .object fields =>
    (keys.filter fun key => !Fields.contains fields key).map fun key => ⟨[.member key], "required", none⟩
  | _ => []

def itemsOf : Json → List Json
  | .array items => items
  | _ => []

mutual

/-- All that a value misses of a schema. -/
def faults : (schema v : Json) → List Fault
  | .object keywords, v => keywordFaults keywords v
  | _, _ => []
termination_by structural schema => schema

/-- What a value misses of these keywords. -/
def keywordFaults : Fields → Json → List Fault
  | [], _ => []
  | (keyword, argument) :: rest, v =>
    (match keyword with
      | "required" => missing (names argument) v
      | "properties" => memberFaults argument v
      | "items" =>
        ((itemsOf v).mapIdx fun i w => (faults argument w).map (Fault.within (.item i))).flatten
      | _ => if keeps keyword argument v then [] else [⟨[], keyword, some v⟩]) ++
    keywordFaults rest v
termination_by structural keywords => keywords

/-- What the members of a value miss of their schemas. -/
def memberFaults : Json → Json → List Fault
  | .object properties, v => propertyFaults properties v
  | _, _ => []
termination_by structural argument => argument

def propertyFaults : Fields → Json → List Fault
  | [], _ => []
  | (key, schema) :: rest, v =>
    ((v.get? key).toList.flatMap fun w => (faults schema w).map (Fault.within (.member key))) ++
      propertyFaults rest v
termination_by structural properties => properties

end

end ListingCrawl.Schema
