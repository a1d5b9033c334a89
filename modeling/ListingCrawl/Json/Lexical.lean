import ListingCrawl.Text.Octets

/-! JSON text seen by a scanner that knows only quotes, backslashes and braces: where the brace that
closes an object stands, and control characters inside string literals written as escapes. Both work on
any octets, JSON or not. -/

namespace ListingCrawl.Json

open Octets

/-- Where a scanner is: outside string literals, inside one, or behind a backslash inside one. -/
inductive Quoting where
  | outside | inside | escaped
  deriving DecidableEq, Repr

/-- The place after the octet `b`. -/
def Quoting.next (q : Quoting) (b : UInt8) : Quoting :=
  match q with
  | outside => if b = quote then inside else outside
  | inside => if b = backslash then escaped else if b = quote then outside else inside
  | escaped => inside

/-! ### The end of an object -/

/-- The number of octets up to and with the brace that closes the `depth` open ones. -/
def closing? (q : Quoting) (depth : Nat) : Octets → Option Nat
  | [] => none
  | b :: r =>
    if q = .outside ∧ b = openBrace then (closing? q (depth + 1) r).map (· + 1)
    else if q = .outside ∧ b = closeBrace then
      if depth ≤ 1 then some 1 else (closing? q (depth - 1) r).map (· + 1)
    else (closing? (q.next b) depth r).map (· + 1)

/-- The position just after the brace that closes the object opened at `start`. -/
def objectEnd? (s : Octets) (start : Nat) : Option Nat :=
  match s.drop start with
  | [] => none
  | b :: r => if b = openBrace then (closing? .outside 1 r).map (start + 1 + ·) else none

/-! ### Control characters -/

def hexDigit (n : Nat) : UInt8 :=
  UInt8.ofNat (if n < 10 then 0x30 + n else 0x57 + n)

/-- The escape sequence of a control character. -/
def controlEscape (b : UInt8) : Octets :=
  if b = 0x0a then [backslash, 0x6e]
  else if b = 0x0d then [backslash, 0x72]
  else if b = 0x09 then [backslash, 0x74]
  else if b = 0x08 then [backslash, 0x62]
  else if b = 0x0c then [backslash, 0x66]
  else [backslash, 0x75, 0x30, 0x30, hexDigit (b.toNat / 16), hexDigit (b.toNat % 16)]

def escapeControlsFrom (q : Quoting) : Octets → Octets
  | [] => []
  | b :: r =>
    if q = .inside ∧ b < 0x20 then controlEscape b ++ escapeControlsFrom q r
    else b :: escapeControlsFrom (q.next b) r

/-- Writes control characters inside string literals as escapes; all else stays. -/
def escapeControls (s : Octets) : Octets :=
  escapeControlsFrom .outside s

end ListingCrawl.Json
