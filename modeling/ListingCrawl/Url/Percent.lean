import ListingCrawl.Text.Octets

/-! Percent-encoding: an octet as `%` and two hexadecimal digits. The sets say which ASCII characters
are encoded in a part of a URL; all other characters are encoded in every part. -/

namespace ListingCrawl.Url

open Octets

def hexUpper (n : Nat) : Char :=
  Char.ofNat (if n < 10 then 0x30 + n else 0x37 + n)

def percentOctet (b : UInt8) : List Char :=
  ['%', hexUpper (b.toNat / 16), hexUpper (b.toNat % 16)]

/-- Encodes the characters that are in the set, and all beyond ASCII. -/
def percentEncode (set : Char → Bool) (cs : List Char) : List Char :=
  cs.flatMap fun c =>
    if c.toNat ≥ 0x80 || set c then (ofChar c).flatMap percentOctet else [c]

def isControl (c : Char) : Bool :=
  c.toNat < 0x20 || c.toNat == 0x7f

def inFragmentSet (c : Char) : Bool :=
  isControl c || [' ', '"', '<', '>', '\x60'].contains c

def inQuerySet (c : Char) : Bool :=
  isControl c || [' ', '"', '#', '<', '>'].contains c

def inSpecialQuerySet (c : Char) : Bool :=
  inQuerySet c || c == '\''

def inPathSet (c : Char) : Bool :=
  inFragmentSet c || ['#', '?', '\x7b', '\x7d'].contains c

def inUserinfoSet (c : Char) : Bool :=
  inPathSet c || ['/', ':', ';', '=', '@', '[', '\\', ']', '^', '|'].contains c

def hexValue? (c : Char) : Option Nat :=
  if c.isDigit then some (c.toNat - 0x30)
  else if 'a' ≤ c ∧ c ≤ 'f' then some (c.toNat - 0x57)
  else if 'A' ≤ c ∧ c ≤ 'F' then some (c.toNat - 0x37)
  else none

/-- The octets of a text whose percent sequences are resolved. -/
def percentDecode : List Char → Octets
  | '%' :: a :: b :: r =>
    match hexValue? a, hexValue? b with
    | some x, some y => UInt8.ofNat (x * 16 + y) :: percentDecode r
    | _, _ => ofChar '%' ++ percentDecode (a :: b :: r)
  | c :: r => ofChar c ++ percentDecode r
  | [] => []
termination_by cs => cs.length

end ListingCrawl.Url
