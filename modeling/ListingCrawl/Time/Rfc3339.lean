/-! Dates and times, and the RFC 3339 texts that name one. A space may stand for the `T`, the letters may
be small, a leap second may stand at any minute, and the offset may use U+2212 as its minus. -/

namespace ListingCrawl.Time

/-- A day of the proleptic Gregorian calendar and a time of day. -/
structure DateTime where
  year : Nat
  month : Nat
  day : Nat
  hour : Nat
  minute : Nat
  second : Nat
  deriving DecidableEq, Repr

def isLeapYear (year : Nat) : Bool :=
  year % 4 == 0 && (year % 100 != 0 || year % 400 == 0)

def daysInMonth (year month : Nat) : Nat :=
  if month = 2 then if isLeapYear year then 29 else 28
  else if month = 4 ∨ month = 6 ∨ month = 9 ∨ month = 11 then 30
  else 31

/-- Is there such a day and time? The second 60 is a leap second. -/
def DateTime.isValid (t : DateTime) : Bool :=
  t.year ≤ 9999 && 1 ≤ t.month && t.month ≤ 12 && 1 ≤ t.day && t.day ≤ daysInMonth t.year t.month &&
    t.hour ≤ 23 && t.minute ≤ 59 && t.second ≤ 60

/-! ### Reading -/

def digitValue (c : Char) : Nat :=
  c.toNat - '0'.toNat

/-- A number of exactly `width` digits. -/
def digits? (width : Nat) (s : List Char) : Option (Nat × List Char) :=
  let ds := s.take width
  if ds.length = width ∧ ds.all Char.isDigit then
    some (ds.foldl (fun n c => n * 10 + digitValue c) 0, s.drop width)
  else none

/-- One character of those given. -/
def oneOf? (cs : List Char) : List Char → Option (List Char)
  | c :: r => if c ∈ cs then some r else none
  | [] => none

/-- A point and at least one digit, or nothing. -/
def fraction? : List Char → Option (List Char)
  | '.' :: c :: r => if c.isDigit then some (r.dropWhile Char.isDigit) else none
  | ['.'] => none
  | s => some s

/-- An offset from UTC of less than a day, with nothing behind it. -/
def isOffset : List Char → Bool
  | [] => false
  | c :: r =>
    if c = 'Z' ∨ c = 'z' then r.isEmpty
    else if c = '+' ∨ c = '-' ∨ c = '\u2212' then
      match digits? 2 r with
      | some (hours, ':' :: r) =>
        match digits? 2 r with
        | some (minutes, []) => hours ≤ 23 && minutes ≤ 59
        | _ => false
      | _ => false
    else false

/-- The date and time that a text of RFC 3339 starts with, and what follows the second. -/
def readDateTime? (s : List Char) : Option (DateTime × List Char) := do
  let (year, s) ← digits? 4 s
  let s ← oneOf? ['-'] s
  let (month, s) ← digits? 2 s
  let s ← oneOf? ['-'] s
  let (day, s) ← digits? 2 s
  let s ← oneOf? ['T', 't', ' '] s
  let (hour, s) ← digits? 2 s
  let s ← oneOf? [':'] s
  let (minute, s) ← digits? 2 s
  let s ← oneOf? [':'] s
  let (second, s) ← digits? 2 s
  return (⟨year, month, day, hour, minute, second⟩, s)

/-- Does the text name a time as RFC 3339 has it? -/
def isRfc3339 (s : String) : Bool :=
  match readDateTime? s.toList with
  | some (t, r) =>
    match fraction? r with
    | some r => t.isValid && isOffset r
    | none => false
  | none => false

end ListingCrawl.Time
