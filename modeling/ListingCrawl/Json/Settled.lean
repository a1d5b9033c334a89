import ListingCrawl.Decimal.Shortest
import ListingCrawl.Json.Shape

/-! Values as they are once more decoded as values. A number is written as it is once it was held as a
number: an integer of 128 bits loses the sign of zero, a positional decimal that is the shortest name of a
double takes an exponent where the double is very small or large, and any other token stays as it is. An
object that holds a number becomes the number. -/

namespace ListingCrawl.Json

/-- A decimal in positional notation, without its sign: the digits before and after the point. -/
structure Positional where
  whole : List Char
  fraction : List Char

namespace Positional

/-- Without a sign and an exponent, a token is positional. -/
def ofToken? (cs : List Char) : Option Positional :=
  match cs.span (· != '.') with
  | (whole, []) => if whole.all Char.isDigit then some ⟨whole, []⟩ else none
  | (whole, _ :: fraction) =>
    if whole.all Char.isDigit && fraction.all Char.isDigit then some ⟨whole, fraction⟩ else none

/-- All digits from the first that is not zero. -/
def digits (p : Positional) : List Char :=
  (p.whole ++ p.fraction).dropWhile (· == '0')

/-- The digits from the first to the last that is not zero. -/
def significant (p : Positional) : List Char :=
  (p.digits.reverse.dropWhile (· == '0')).reverse

/-- The power of ten of the first digit that is not zero. -/
def exponent (p : Positional) : Int :=
  (p.digits.length : Int) - 1 - p.fraction.length

/-- Doubles below `10 ^ -5` and from `10 ^ 16` on are written with an exponent. -/
def takesExponent (p : Positional) : Bool :=
  !p.digits.isEmpty && (p.exponent < -5 || 15 < p.exponent)

/-- Is this the positional form of a double? A fraction does not end in zero. -/
def namesDouble (p : Positional) : Bool :=
  if p.fraction.getLast? = some '0' then false
  else match Text.decimal? p.significant with
    | none => false
    | some n => Decimal.isShortest n (p.digits.length - p.significant.length) p.fraction.length

/-- One digit, a point and the others if there are any, and the exponent with its sign. -/
def scientific (p : Positional) : List Char :=
  let fraction := p.significant.tail
  p.significant.take 1 ++ (if fraction.isEmpty then [] else '.' :: fraction) ++
    ['e', if p.exponent < 0 then '-' else '+'] ++ (toString p.exponent.natAbs).toList

end Positional

/-- Is `n` an unsigned or a signed integer of 128 bits? -/
def fits128 (n : Int) : Bool :=
  -170141183460469231731687303715884105728 ≤ n && n < 340282366920938463463374607431768211456

/-- The token of a number that was held as a number. -/
def settleToken (token : String) : String :=
  match (int? token).filter fits128 with
  | some n => toString n
  | none =>
    let (sign, cs) := match token.toList with
      | '-' :: cs => (['-'], cs)
      | cs => ([], cs)
    match Positional.ofToken? cs with
    | none => token
    | some p =>
      if p.takesExponent && p.namesDouble then String.ofList (sign ++ p.scientific) else token

/-- The number that an object holds: its only member is the text of the number. -/
def heldNumber (fields : Fields) : Except Mismatch Json :=
  match fields with
  | (_, .string text) :: others =>
    match readNumeral (Octets.ofText text) with
    | .error e => .error (.badNumeral e)
    | .ok token =>
      if others.isEmpty then .ok (.number token) else .error (.tooManyMembers (others.length + 1))
  | (_, v) :: _ => .error (.wrongType v "string containing a number")
  | [] => .ok (.object [])

mutual

/-- The value that is decoded from a value. -/
def settle : Json → Except Mismatch Json
  | .null => .ok .null
  | .bool b => .ok (.bool b)
  | .number token => .ok (.number (settleToken token))
  | .string text => .ok (.string text)
  | .array items => (settleItems items).map .array
  | .object fields =>
    if Fields.holdsNumber fields then heldNumber fields else (settleFields fields).map .object

def settleItems : List Json → Except Mismatch (List Json)
  | [] => .ok []
  | v :: vs => do
    let w ← settle v
    let ws ← settleItems vs
    .ok (w :: ws)

def settleFields : List (String × Json) → Except Mismatch (List (String × Json))
  | [] => .ok []
  | (key, v) :: fs => do
    let w ← settle v
    let gs ← settleFields fs
    .ok ((key, w) :: gs)

end

/-- A value that can be decoded as a value. -/
def Check.value : Check := fun v => (settle v).map fun _ => ()

end ListingCrawl.Json
