/-! Decimals that are the shortest name of a double. Reading a decimal rounds it to the nearest number of
double precision, so each such number has an interval of decimals that read as it. The shortest of them
lies on the coarsest power of ten that has a multiple in the interval. -/

namespace ListingCrawl.Decimal

/-- A positive number of double precision, `mantissa * 2 ^ shift` units of `2 ^ -1074`. The mantissa has
53 bits, or fewer where there is no shift. -/
structure Double where
  mantissa : Nat
  shift : Nat
  deriving DecidableEq, Repr

namespace Double

/-- The integer nearest to `num / den`; halfway between two, the even one. -/
def roundQuotient (num den : Nat) : Nat :=
  let q := num / den
  let twice := 2 * (num % den)
  if twice < den then q
  else if den < twice then q + 1
  else q + q % 2

/-- The double nearest to `num / den`. There is none beyond the largest finite one, and none for a number
that rounds to zero. -/
def nearest? (num den : Nat) : Option Double :=
  let units := num <<< 1074
  let shift := (units / den).log2 - 52
  let mantissa := roundQuotient units (den <<< shift)
  let d : Double := if mantissa = 1 <<< 53 then ⟨1 <<< 52, shift + 1⟩ else ⟨mantissa, shift⟩
  if d.mantissa = 0 ∨ 2045 < d.shift then none else some d

/-- The double in units of `2 ^ -1076`, in which the ends of its interval are integers too. -/
def quarters (d : Double) : Nat :=
  (4 * d.mantissa) <<< d.shift

/-- Where the interval of `d` begins: halfway to the double before it, which is nearer below a power
of two. -/
def lower (d : Double) : Nat :=
  d.quarters - (if d.mantissa = 1 <<< 52 ∧ 0 < d.shift then 1 else 2) <<< d.shift

/-- Where the interval of `d` ends: halfway to the double after it. -/
def upper (d : Double) : Nat :=
  d.quarters + 2 <<< d.shift

/-- The ends of its interval read as `d` if its mantissa is even. -/
def closed (d : Double) : Bool :=
  d.mantissa % 2 == 0

/-- Does `value` read as `d`? It is given in `2 ^ -1076 / scale`. -/
def contains (d : Double) (scale value : Nat) : Bool :=
  if d.closed then d.lower * scale ≤ value && value ≤ d.upper * scale
  else d.lower * scale < value && value < d.upper * scale

/-- Does a multiple of `step` read as `d`? The first from the lower end on is tried, and the one after it,
since the end itself may not count. -/
def hasMultiple (d : Double) (scale step : Nat) : Bool :=
  let first := (d.lower * scale + step - 1) / step * step
  d.contains scale first || d.contains scale (first + step)

end Double

/-- Is `digits * 10 ^ zeros / 10 ^ places` the shortest decimal that reads as its nearest double, and of
those the nearest to it? The digits do not end in zero, and one of the powers of ten is 1. -/
def isShortest (digits zeros places : Nat) : Bool :=
  let scale := Nat.pow 10 places
  match Double.nearest? (digits * Nat.pow 10 zeros) scale with
  | none => false
  | some d =>
    let step := Nat.pow 10 zeros <<< 1076
    let value := digits * step
    let center := d.quarters * scale
    let away (v : Nat) := (v - center) + (center - v)
    let other := if center < value then value - step else value + step
    !d.hasMultiple scale (10 * step) && !(d.contains scale other && away other < away value)

end ListingCrawl.Decimal
