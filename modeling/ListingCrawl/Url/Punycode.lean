/-! Punycode: a label of any characters written with ASCII letters, digits and hyphens, as RFC 3492 has
it. -/

namespace ListingCrawl.Url.Punycode

def digit (d : Nat) : Char :=
  Char.ofNat (if d < 26 then 0x61 + d else 0x30 + (d - 26))

def digitValue? (c : Char) : Option Nat :=
  if 'a' ≤ c ∧ c ≤ 'z' then some (c.toNat - 0x61)
  else if 'A' ≤ c ∧ c ≤ 'Z' then some (c.toNat - 0x41)
  else if c.isDigit then some (c.toNat - 0x30 + 26)
  else none

/-- The threshold of the digit at the place `k`. -/
def threshold (k bias : Nat) : Nat :=
  min 26 (max 1 (k - bias))

def adaptLoop : Nat → Nat → Nat → Nat
  | 0, _, k => k
  | fuel + 1, delta, k =>
    if delta > 455 then adaptLoop fuel (delta / 35) (k + 36) else k + 36 * delta / (delta + 38)

/-- The bias after a delta. -/
def adapt (delta points : Nat) (first : Bool) : Nat :=
  let delta := if first then delta / 700 else delta / 2
  adaptLoop delta (delta + delta / points) 0

/-- A delta as digits of variable base. -/
def encodeDelta (bias : Nat) : Nat → Nat → Nat → List Char
  | 0, q, _ => [digit q]
  | fuel + 1, q, k =>
    let t := threshold k bias
    if q < t then [digit q]
    else digit (t + (q - t) % (36 - t)) :: encodeDelta bias fuel ((q - t) / (36 - t)) (k + 36)

structure State where
  point : Nat
  delta : Nat
  bias : Nat
  handled : Nat

/-- One pass over the label for the next larger code point. -/
def encodePass (basic : Nat) (point : Nat) (cs : List Nat) (s : State) : State × List Char :=
  cs.foldl (fun (s, out) c =>
    if c < point then ({ s with delta := s.delta + 1 }, out)
    else if c = point then
      ({ s with
          delta := 0, handled := s.handled + 1,
          bias := adapt s.delta (s.handled + 1) (s.handled == basic) },
        out ++ encodeDelta s.bias s.delta s.delta 36)
    else (s, out)) (s, [])

def encodeLoop (basic : Nat) (cs : List Nat) : Nat → State → List Char
  | 0, _ => []
  | fuel + 1, s =>
    match (cs.filter (· ≥ s.point)).min? with
    | none => []
    | some point =>
      let s := { s with delta := s.delta + (point - s.point) * (s.handled + 1), point := point }
      let (s, out) := encodePass basic point cs s
      out ++ encodeLoop basic cs fuel { s with delta := s.delta + 1, point := point + 1 }

def encode (label : List Char) : List Char :=
  let basic := label.filter (·.toNat < 0x80)
  basic ++ (if basic.isEmpty then [] else ['-']) ++
    encodeLoop basic.length (label.map Char.toNat) label.length ⟨0x80, 0, 72, basic.length⟩

/-- Reads a delta: its value and what follows it. -/
def readDelta? (bias : Nat) : List Char → Nat → Nat → Nat → Option (Nat × List Char)
  | [], _, _, _ => none
  | c :: r, i, w, k => do
    let d ← digitValue? c
    let t := threshold k bias
    let i := i + d * w
    if i ≥ 4294967296 then none
    else if d < t then some (i, r)
    else readDelta? bias r i (w * (36 - t)) (k + 36)

def decodeLoop (cs : List Char) (out : List Nat) (point i bias : Nat) :
    Nat → Option (List Nat)
  | 0 => if cs.isEmpty then some out else none
  | fuel + 1 =>
    if cs.isEmpty then some out
    else do
      let (j, r) ← readDelta? bias cs i 1 36
      let count := out.length + 1
      let point := point + j / count
      let place := j % count
      if point > 0x10ffff || (0xd800 ≤ point && point ≤ 0xdfff) then none
      else
        decodeLoop r (out.take place ++ point :: out.drop place) point (place + 1)
          (adapt (j - i) count (i == 0)) fuel

/-- The label that a text of ASCII characters encodes. -/
def decode? (cs : List Char) : Option (List Char) := do
  let parts := cs.reverse.span (· ≠ '-')
  let (basic, digits) :=
    if parts.2.isEmpty then ([], cs) else (parts.2.tail.reverse, parts.1.reverse)
  if basic.any (·.toNat ≥ 0x80) then none
  else
    let points ← decodeLoop digits (basic.map Char.toNat) 0x80 0 72 digits.length
    return points.map Char.ofNat

end ListingCrawl.Url.Punycode
