/-! Octets and UTF-8. A file's content is a list of octets; `scan` reads it as characters and marks
each ill-formed part, so that strict decoding asks for no marks and lossy decoding replaces them. -/

namespace ListingCrawl

/-- The content of a file or of a pipe. -/
abbrev Octets := List UInt8

namespace Octets

/-! ### Encoding -/

/-- UTF-8 of one character. -/
def ofChar (c : Char) : Octets :=
  let n := c.toNat
  if n < 0x80 then [UInt8.ofNat n]
  else if n < 0x800 then [UInt8.ofNat (0xc0 + n / 64), UInt8.ofNat (0x80 + n % 64)]
  else if n < 0x10000 then
    [UInt8.ofNat (0xe0 + n / 4096), UInt8.ofNat (0x80 + n / 64 % 64), UInt8.ofNat (0x80 + n % 64)]
  else
    [UInt8.ofNat (0xf0 + n / 262144), UInt8.ofNat (0x80 + n / 4096 % 64),
      UInt8.ofNat (0x80 + n / 64 % 64), UInt8.ofNat (0x80 + n % 64)]

def ofChars (cs : List Char) : Octets :=
  cs.flatMap ofChar

/-- UTF-8 of a text. -/
def ofText (s : String) : Octets :=
  ofChars s.toList

/-! ### Decoding -/

def isContinuation (b : UInt8) : Bool :=
  0x80 ≤ b && b ≤ 0xbf

/-- Decodes a sequence with two or more octets after its first, whose own low bits are `acc`. The second
octet lies in `lo … hi`; the `more` octets after it are continuations. -/
def tail (acc : Nat) (lo hi : UInt8) (more : Nat) : Octets → Option Char × Nat
  | [] => (none, 0)
  | b :: r =>
    if lo ≤ b && b ≤ hi then
      let conts := (r.take more).takeWhile isContinuation
      if conts.length = more then
        (some (Char.ofNat
          (conts.foldl (fun a c => a * 64 + (c.toNat - 0x80)) (acc * 64 + (b.toNat - 0x80)))), more + 1)
      else (none, conts.length + 1)
    else (none, 0)

/-- The character that starts with `b`, or `none` for an ill-formed part, and the number of octets
after `b` that belong to it. An ill-formed part is as long as some well-formed sequence agrees with it. -/
def headScalar (b : UInt8) (rest : Octets) : Option Char × Nat :=
  let n := b.toNat
  if n < 0x80 then (some (Char.ofNat n), 0)
  else if n < 0xc2 then (none, 0)
  else if n < 0xe0 then tail (n - 0xc0) 0x80 0xbf 0 rest
  else if n < 0xf0 then
    tail (n - 0xe0) (if n = 0xe0 then 0xa0 else 0x80) (if n = 0xed then 0x9f else 0xbf) 1 rest
  else if n < 0xf5 then
    tail (n - 0xf0) (if n = 0xf0 then 0x90 else 0x80) (if n = 0xf4 then 0x8f else 0xbf) 2 rest
  else (none, 0)

/-- The characters in order, `none` for each ill-formed part; the first `skip` octets are passed over. -/
def scanFrom (skip : Nat) : Octets → List (Option Char)
  | [] => []
  | b :: r =>
    match skip with
    | k + 1 => scanFrom k r
    | 0 => (headScalar b r).1 :: scanFrom (headScalar b r).2 r

def scan (b : Octets) : List (Option Char) :=
  scanFrom 0 b

/-- The text that the octets encode, if all of them are well-formed UTF-8. -/
def toText? (b : Octets) : Option String :=
  let cs := scan b
  if cs.all Option.isSome then some (String.ofList (cs.filterMap id)) else none

/-- The text that the octets encode, with U+FFFD for each ill-formed part. -/
def toTextLossy (b : Octets) : String :=
  String.ofList ((scan b).map (·.getD '\ufffd'))

/-! ### Octets with a role in JSON -/

abbrev quote : UInt8 := 0x22
abbrev backslash : UInt8 := 0x5c
abbrev openBrace : UInt8 := 0x7b
abbrev closeBrace : UInt8 := 0x7d
abbrev openBracket : UInt8 := 0x5b
abbrev closeBracket : UInt8 := 0x5d
abbrev comma : UInt8 := 0x2c
abbrev colon : UInt8 := 0x3a

theorem ofChars_append (a b : List Char) : ofChars (a ++ b) = ofChars a ++ ofChars b := by
  simp [ofChars]

theorem ofText_append (a b : String) : ofText (a ++ b) = ofText a ++ ofText b := by
  simp [ofText, ofChars_append]

end Octets

end ListingCrawl
