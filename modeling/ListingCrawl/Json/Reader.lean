import ListingCrawl.Json.Basic
import ListingCrawl.Text.Octets

/-! Reading JSON from octets. Each reader takes the octets that remain and returns what it read and what
it left. Containers may be nested 127 deep: `readValue` descends on the number of levels still allowed,
and the loops over items and members take the reader of the next level as an argument. A loop descends on
`fuel`, one octet at a step; each step reads at least one, so the text itself is fuel enough. -/

namespace ListingCrawl.Json

open Octets

/-- Why a text is no JSON. -/
inductive ReadError where
  | endInArray | endInObject | endInString | endInValue
  | expectedColon | expectedArrayEnd | expectedObjectEnd | expectedLiteral | expectedValue
  | invalidEscape | invalidNumber | invalidCodePoint | controlCharacter | keyNotString
  | loneSurrogate | brokenSurrogatePair | trailingComma | trailingCharacters | tooDeep
  | noNumberText (found : String)
  deriving DecidableEq, Repr

def ReadError.message : ReadError → String
  | endInArray => "EOF while parsing a list"
  | endInObject => "EOF while parsing an object"
  | endInString => "EOF while parsing a string"
  | endInValue => "EOF while parsing a value"
  | expectedColon => "expected `:`"
  | expectedArrayEnd => "expected `,` or `]`"
  | expectedObjectEnd => "expected `,` or `\x7d`"
  | expectedLiteral => "expected ident"
  | expectedValue => "expected value"
  | invalidEscape => "invalid escape"
  | invalidNumber => "invalid number"
  | invalidCodePoint => "invalid unicode code point"
  | controlCharacter => "control character (\\u0000-\\u001F) found while parsing a string"
  | keyNotString => "key must be a string"
  | loneSurrogate => "lone leading surrogate in hex escape"
  | brokenSurrogatePair => "unexpected end of hex escape"
  | trailingComma => "trailing comma"
  | trailingCharacters => "trailing characters"
  | tooDeep => "recursion limit exceeded"
  | noNumberText found => "invalid type: " ++ found ++ ", expected string containing a number"

/-- A reader returns what it read and the octets that it left. -/
abbrev Reader (α : Type) := Octets → Except ReadError (α × Octets)

/-- The white space of JSON: space, tab, line feed and carriage return. -/
def isSpace (b : UInt8) : Bool :=
  b == 0x20 || b == 0x09 || b == 0x0a || b == 0x0d

def skipSpace (s : Octets) : Octets :=
  s.dropWhile isSpace

/-! ### Strings -/

def hexValue? (b : UInt8) : Option Nat :=
  let n := b.toNat
  if 0x30 ≤ n ∧ n ≤ 0x39 then some (n - 0x30)
  else if 0x41 ≤ n ∧ n ≤ 0x46 then some (n - 0x37)
  else if 0x61 ≤ n ∧ n ≤ 0x66 then some (n - 0x57)
  else none

/-- The four digits after `\u`. -/
def readHex4 : Reader Nat
  | a :: b :: c :: d :: r =>
    match hexValue? a, hexValue? b, hexValue? c, hexValue? d with
    | some a, some b, some c, some d => .ok (((a * 16 + b) * 16 + c) * 16 + d, r)
    | _, _, _, _ => .error .invalidEscape
  | _ => .error .endInString

/-- The second half of a surrogate pair whose first half is `high`. -/
def readLowSurrogate (high : Nat) : Reader Octets
  | [] => .error .endInString
  | b :: r =>
    if b = backslash then
      match r with
      | [] => .error .endInString
      | u :: r =>
        if u = 0x75 then do
          let (low, r) ← readHex4 r
          if 0xdc00 ≤ low ∧ low ≤ 0xdfff then
            .ok (ofChar (Char.ofNat ((high - 0xd800) * 1024 + (low - 0xdc00) + 0x10000)), r)
          else .error .loneSurrogate
        else .error .brokenSurrogatePair
    else .error .brokenSurrogatePair

/-- What follows `\u`: a character, or a pair of surrogates. -/
def readUnicode (s : Octets) : Except ReadError (Octets × Octets) := do
  let (n, r) ← readHex4 s
  if 0xdc00 ≤ n ∧ n ≤ 0xdfff then .error .loneSurrogate
  else if 0xd800 ≤ n ∧ n ≤ 0xdbff then readLowSurrogate n r
  else .ok (ofChar (Char.ofNat n), r)

/-- What follows a backslash, as the octets that it stands for. -/
def readEscape : Reader Octets
  | [] => .error .endInString
  | b :: r =>
    if b = quote ∨ b = backslash ∨ b = 0x2f then .ok ([b], r)
    else if b = 0x62 then .ok ([0x08], r)
    else if b = 0x66 then .ok ([0x0c], r)
    else if b = 0x6e then .ok ([0x0a], r)
    else if b = 0x72 then .ok ([0x0d], r)
    else if b = 0x74 then .ok ([0x09], r)
    else if b = 0x75 then readUnicode r
    else .error .invalidEscape

/-- The content of a string literal after its opening quote, up to and with the closing one. -/
def readContent : Octets → Reader Octets
  | [], _ | _ :: _, [] => .error .endInString
  | _ :: fuel, b :: r =>
    if b = quote then .ok ([], r)
    else if b = backslash then do
      let (c, r) ← readEscape r
      let (cs, r) ← readContent fuel r
      .ok (c ++ cs, r)
    else if b < 0x20 then .error .controlCharacter
    else do
      let (cs, r) ← readContent fuel r
      .ok (b :: cs, r)

/-- A string literal after its opening quote. -/
def readString (s : Octets) : Except ReadError (String × Octets) := do
  let (content, r) ← readContent s s
  match toText? content with
  | some text => .ok (text, r)
  | none => .error .invalidCodePoint

/-! ### Numbers and literals -/

def isDigit (b : UInt8) : Bool :=
  0x30 ≤ b && b ≤ 0x39

/-- At least one digit. -/
def readDigits (s : Octets) : Except ReadError (Octets × Octets) :=
  match s.takeWhile isDigit with
  | [] => .error (if s.isEmpty then .endInValue else .invalidNumber)
  | ds => .ok (ds, s.dropWhile isDigit)

/-- Digits without a leading zero. -/
def readInteger (s : Octets) : Except ReadError (Octets × Octets) := do
  let (ds, r) ← readDigits s
  if ds.length > 1 ∧ ds.head? = some 0x30 then .error .invalidNumber else .ok (ds, r)

/-- A point and digits, or nothing. -/
def readFraction : Reader Octets
  | [] => .ok ([], [])
  | b :: r =>
    if b = 0x2e then do
      let (ds, r) ← readDigits r
      .ok (b :: ds, r)
    else .ok ([], b :: r)

/-- An exponent, or nothing. It is noted with a small `e` and always with a sign. -/
def readExponent : Reader Octets
  | [] => .ok ([], [])
  | b :: r =>
    if b = 0x65 ∨ b = 0x45 then
      let sign := if r.head? = some 0x2d then 0x2d else 0x2b
      let r := if r.head? = some 0x2d ∨ r.head? = some 0x2b then r.tail else r
      do
        let (ds, r) ← readDigits r
        .ok (0x65 :: sign :: ds, r)
    else .ok ([], b :: r)

/-- The token of a number. -/
def readNumber (s : Octets) : Except ReadError (String × Octets) := do
  let sign : Octets := if s.head? = some 0x2d then [0x2d] else []
  let (int, r) ← readInteger (s.drop sign.length)
  let (frac, r) ← readFraction r
  let (exp, r) ← readExponent r
  .ok (String.ofList ((sign ++ int ++ frac ++ exp).map fun b => Char.ofNat b.toNat), r)

/-- The token of a number, with nothing behind it. -/
def readNumeral (s : Octets) : Except ReadError String := do
  let (token, r) ← readNumber s
  if r.isEmpty then .ok token else .error .invalidNumber

/-- The rest of `null`, `true` or `false`. -/
def readLiteral : List UInt8 → Octets → Except ReadError Octets
  | [], s => .ok s
  | _ :: _, [] => .error .endInValue
  | e :: es, b :: r => if b = e then readLiteral es r else .error .expectedLiteral

/-! ### Containers -/

/-- The items after the first, each behind a comma, and the closing bracket. -/
def readMoreItems (item : Reader Json) : Octets → Reader (List Json)
  | [], _ => .error .endInArray
  | _ :: fuel, s =>
    match skipSpace s with
    | [] => .error .endInArray
    | b :: r =>
      if b = closeBracket then .ok ([], r)
      else if b = comma then
        match skipSpace r with
        | [] => .error .endInValue
        | c :: t =>
          if c = closeBracket then .error .trailingComma
          else do
            let (v, t) ← item (c :: t)
            let (vs, t) ← readMoreItems item fuel t
            .ok (v :: vs, t)
      else .error .expectedArrayEnd

/-- An array after its opening bracket. -/
def readItems (item : Reader Json) (s : Octets) : Except ReadError (List Json × Octets) :=
  match skipSpace s with
  | [] => .error .endInArray
  | b :: r =>
    if b = closeBracket then .ok ([], r)
    else do
      let (v, t) ← item (b :: r)
      let (vs, t) ← readMoreItems item t t
      .ok (v :: vs, t)

/-- A member after the opening quote of its key. -/
def readMember (value : Reader Json) (s : Octets) : Except ReadError ((String × Json) × Octets) := do
  let (key, r) ← readString s
  match skipSpace r with
  | [] => .error .endInObject
  | b :: r =>
    if b = colon then do
      let (v, r) ← value r
      .ok ((key, v), r)
    else .error .expectedColon

/-- The members after the first, each behind a comma, and the closing brace. -/
def readMoreMembers (value : Reader Json) : Octets → Reader (List (String × Json))
  | [], _ => .error .endInObject
  | _ :: fuel, s =>
    match skipSpace s with
    | [] => .error .endInObject
    | b :: r =>
      if b = closeBrace then .ok ([], r)
      else if b = comma then
        match skipSpace r with
        | [] => .error .endInValue
        | c :: t =>
          if c = quote then do
            let (m, t) ← readMember value t
            let (ms, t) ← readMoreMembers value fuel t
            .ok (m :: ms, t)
          else .error (if c = closeBrace then .trailingComma else .keyNotString)
      else .error .expectedObjectEnd

/-- An object after its opening brace: its members as they were written. -/
def readMembers (value : Reader Json) (s : Octets) : Except ReadError (List (String × Json) × Octets) :=
  match skipSpace s with
  | [] => .error .endInObject
  | b :: r =>
    if b = closeBrace then .ok ([], r)
    else if b = quote then do
      let (m, t) ← readMember value r
      let (ms, t) ← readMoreMembers value t t
      .ok (m :: ms, t)
    else .error .keyNotString

/-! ### Objects -/

/-- The kind of value that begins here, as error messages name it. Only literals and numbers are read. -/
def readKind : Octets → Except ReadError String
  | [] => .error .endInValue
  | b :: r =>
    if b = 0x6e then (readLiteral [0x75, 0x6c, 0x6c] r).map fun _ => "null"
    else if b = 0x74 then (readLiteral [0x72, 0x75, 0x65] r).map fun _ => "boolean `true`"
    else if b = 0x66 then (readLiteral [0x61, 0x6c, 0x73, 0x65] r).map fun _ => "boolean `false`"
    else if b = 0x2d ∨ isDigit b then (readNumber (b :: r)).map fun _ => "number"
    else if b = openBracket then .ok "sequence"
    else if b = openBrace then .ok "map"
    else .error .expectedValue

/-- A number that is held as a text. -/
def readHeldNumber (s : Octets) : Except ReadError (Json × Octets) :=
  match skipSpace s with
  | [] => .error .endInValue
  | b :: r =>
    if b = quote then do
      let (text, r) ← readString r
      let token ← readNumeral (ofText text)
      .ok (.number token, r)
    else do
      let kind ← readKind (b :: r)
      .error (.noNumberText kind)

/-- The first key of an object, after its opening brace. -/
def firstKey? (s : Octets) : Option String :=
  match skipSpace s with
  | [] => none
  | b :: r => if b = quote then (readString r).toOption.map (·.1) else none

/-- An object after its opening brace. If it holds a number it has no other members. -/
def readObject (value : Reader Json) (s : Octets) : Except ReadError (Json × Octets) :=
  if firstKey? s = some Fields.numberKey then do
    let (m, r) ← readMember readHeldNumber (List.tail (skipSpace s))
    match skipSpace r with
    | [] => .error .endInObject
    | b :: r =>
      if b = closeBrace then .ok (m.2, r)
      else .error (if b = comma then .trailingComma else .trailingCharacters)
  else do
    let (members, r) ← readMembers value s
    .ok (.object (Fields.ofEntries members), r)

/-! ### Values -/

/-- A value in which containers are nested at most `levels` deep. -/
def readValue (levels : Nat) (s : Octets) : Except ReadError (Json × Octets) :=
  match skipSpace s with
  | [] => .error .endInValue
  | b :: r =>
    if b = 0x6e then do
      let r ← readLiteral [0x75, 0x6c, 0x6c] r
      .ok (.null, r)
    else if b = 0x74 then do
      let r ← readLiteral [0x72, 0x75, 0x65] r
      .ok (.bool true, r)
    else if b = 0x66 then do
      let r ← readLiteral [0x61, 0x6c, 0x73, 0x65] r
      .ok (.bool false, r)
    else if b = 0x2d ∨ isDigit b then do
      let (token, r) ← readNumber (b :: r)
      .ok (.number token, r)
    else if b = quote then do
      let (text, r) ← readString r
      .ok (.string text, r)
    else if b = openBracket then
      match levels with
      | 0 => .error .tooDeep
      | levels + 1 => do
        let (items, r) ← readItems (readValue levels) r
        .ok (.array items, r)
    else if b = openBrace then
      match levels with
      | 0 => .error .tooDeep
      | levels + 1 => readObject (readValue levels) r
    else .error .expectedValue

/-- How deep containers may be nested. -/
def maxLevels : Nat := 127

/-- May a value that does not show its own end be followed by this? -/
def endsValue : Octets → Bool
  | [] => true
  | b :: _ => isSpace b || b == quote || b == openBracket || b == closeBracket || b == openBrace ||
      b == closeBrace || b == comma || b == colon

/-- The first value of a text and what follows it; nothing if there is only white space. A number or
literal must be followed by what can end it. -/
def readFirst? (s : Octets) : Option (Except ReadError (Json × Octets)) :=
  match skipSpace s with
  | [] => none
  | b :: r => some do
    let (v, t) ← readValue maxLevels (b :: r)
    if b = quote ∨ b = openBracket ∨ b = openBrace ∨ endsValue t then .ok (v, t)
    else .error .trailingCharacters

/-- The value of a text that holds one value and nothing else. -/
def readDocument (s : Octets) : Except ReadError Json := do
  let (v, t) ← readValue maxLevels s
  if (skipSpace t).isEmpty then .ok v else .error .trailingCharacters

def ofText? (s : String) : Option Json :=
  (readDocument (ofText s)).toOption

end ListingCrawl.Json
