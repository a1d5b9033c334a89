import ListingCrawl.Url.Percent

/-! Internet addresses as hosts of a URL: IPv4 with parts that may be decimal, octal or hexadecimal, and
IPv6 with its shortest form. -/

namespace ListingCrawl.Url

/-- The value of digits to a base, all of which must be below it. -/
def digitsValue? (base : Nat) (cs : List Char) : Option Nat :=
  cs.foldlM (fun n c => do
    let d ← hexValue? c
    if d < base then some (n * base + d) else none) 0

/-! ### IPv4 -/

/-- A part of an IPv4 address: hexadecimal behind `0x`, octal behind `0`, else decimal. -/
def ipv4Number? : List Char → Option Nat
  | [] => none
  | '0' :: 'x' :: cs | '0' :: 'X' :: cs => digitsValue? 16 cs
  | '0' :: c :: cs => digitsValue? 8 (c :: cs)
  | cs => digitsValue? 10 cs

/-- The parts of a host, without an empty last one. -/
def ipv4Parts (host : List Char) : List (List Char) :=
  let parts := host.splitOn '.'
  if parts.length > 1 ∧ parts.getLast? = some [] then parts.dropLast else parts

/-- Is the host meant as an IPv4 address? -/
def endsInNumber (host : List Char) : Bool :=
  match (ipv4Parts host).getLast? with
  | none | some [] => false
  | some last => last.all Char.isDigit || (ipv4Number? last).isSome

/-- The address: each part but the last is an octet, and the last fills what remains. -/
def ipv4? (host : List Char) : Option Nat := do
  let parts := ipv4Parts host
  if parts.length > 4 then none
  else
    let numbers ← parts.mapM ipv4Number?
    let last ← numbers.getLast?
    let first := numbers.dropLast
    let room := Nat.pow 256 (4 - first.length)
    if first.any (· > 255) || last ≥ room then none
    else some (first.foldl (fun n part => n * 256 + part) 0 * room + last)

def ipv4Text (n : Nat) : String :=
  ".".intercalate ([n / 16777216, n / 65536 % 256, n / 256 % 256, n % 256].map toString)

/-! ### IPv6 -/

/-- A piece of at most four hexadecimal digits. -/
def ipv6Piece? (cs : List Char) : Option Nat :=
  if cs.isEmpty || cs.length > 4 then none else digitsValue? 16 cs

/-- A dotted quad as two pieces. -/
def dottedQuad? (cs : List Char) : Option (List Nat) := do
  let octet? (part : List Char) : Option Nat :=
    if part.isEmpty || part.length > 3 || (part.length > 1 && part.head? == some '0') then none
    else (digitsValue? 10 part).filter (· ≤ 255)
  match ← (cs.splitOn '.').mapM octet? with
  | [a, b, c, d] => some [a * 256 + b, c * 256 + d]
  | _ => none

/-- Pieces between colons; the last may be a dotted quad if `quad` allows it. -/
def ipv6Pieces? (quad : Bool) (cs : List Char) : Option (List Nat) :=
  if cs.isEmpty then some []
  else
    let parts := cs.splitOn ':'
    let last := parts.getLast?.getD []
    if quad && last.contains '.' then do
      let front ← parts.dropLast.mapM ipv6Piece?
      return front ++ (← dottedQuad? last)
    else parts.mapM ipv6Piece?

/-- What stands before and after the first `::`. -/
def cutColons? : List Char → Option (List Char × List Char)
  | ':' :: ':' :: r => some ([], r)
  | c :: r => (cutColons? r).map fun (before, after) => (c :: before, after)
  | [] => none

/-- The eight pieces of an address; `::` stands for at least one zero piece. -/
def ipv6? (cs : List Char) : Option (List Nat) := do
  match cutColons? cs with
  | none =>
    let ps ← ipv6Pieces? true cs
    if ps.length = 8 then some ps else none
  | some (before, after) =>
    let front ← ipv6Pieces? false before
    let back ← ipv6Pieces? true after
    if front.length + back.length ≤ 7 then
      some (front ++ List.replicate (8 - front.length - back.length) 0 ++ back)
    else none

/-- The number of zeros at the start. -/
def zeroRun (ps : List Nat) : Nat :=
  (ps.takeWhile (· = 0)).length

/-- The start and length of the first longest run of zeros. -/
def longestZeros (ps : List Nat) : Nat × Nat :=
  (List.range ps.length).foldl
    (fun best i => if zeroRun (ps.drop i) > best.2 then (i, zeroRun (ps.drop i)) else best) (0, 0)

def ipv6Text (ps : List Nat) : String :=
  let pieces (ps : List Nat) : String :=
    ":".intercalate (ps.map fun n => String.ofList (Nat.toDigits 16 n))
  let (start, count) := longestZeros ps
  if count > 1 then pieces (ps.take start) ++ "::" ++ pieces (ps.drop (start + count))
  else pieces ps

end ListingCrawl.Url
