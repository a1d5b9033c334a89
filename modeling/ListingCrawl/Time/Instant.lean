import ListingCrawl.Time.Rfc3339

/-! Readings of the clock, in UTC, and the two ways in which they are written. -/

namespace ListingCrawl.Time

/-- A moment in UTC with the milliseconds of its second. -/
structure Instant where
  time : DateTime
  milli : Nat
  valid : time.isValid = true := by decide
  milli_lt : milli < 1000 := by decide
  deriving DecidableEq

/-- The last `width` decimal digits of `n`. -/
def padded : Nat → Nat → List Char
  | 0, _ => []
  | width + 1, n => padded width (n / 10) ++ [Nat.digitChar (n % 10)]

namespace Instant

/-- As in `2026-01-01T00:00:00.000Z`. -/
def rfc3339 (t : Instant) : String :=
  String.ofList <|
    padded 4 t.time.year ++ '-' :: padded 2 t.time.month ++ '-' :: padded 2 t.time.day ++
      'T' :: padded 2 t.time.hour ++ ':' :: padded 2 t.time.minute ++ ':' :: padded 2 t.time.second ++
      '.' :: padded 3 t.milli ++ ['Z']

/-- As in `20260101T000000Z`. -/
def stamp (t : Instant) : String :=
  String.ofList <|
    padded 4 t.time.year ++ padded 2 t.time.month ++ padded 2 t.time.day ++
      'T' :: padded 2 t.time.hour ++ padded 2 t.time.minute ++ padded 2 t.time.second ++ ['Z']

end Instant

end ListingCrawl.Time
