/-! What is done to texts: trimming them, cutting parts out of them, replacing parts, and reading numbers in
decimal. A blank is a character of Unicode's `White_Space` property, wherever a text is trimmed or asked
whether it is blank. -/

namespace ListingCrawl.Text

/-! ### White space -/

/-- The characters of Unicode's `White_Space` property. -/
def isBlank (c : Char) : Bool :=
  let n := c.toNat
  (0x09 ≤ n && n ≤ 0x0d) || n == 0x20 || n == 0x85 || n == 0xa0 || n == 0x1680 ||
    (0x2000 ≤ n && n ≤ 0x200a) || n == 0x2028 || n == 0x2029 || n == 0x202f || n == 0x205f ||
    n == 0x3000

/-- Drops the blanks at both ends. -/
def trimChars (cs : List Char) : List Char :=
  ((cs.dropWhile isBlank).reverse.dropWhile isBlank).reverse

/-- The text without the blanks at its ends. -/
def trim (s : String) : String :=
  String.ofList (trimChars s.toList)

/-- Nothing is left of the text when it is trimmed. -/
def isBlankText (s : String) : Bool :=
  trim s == ""

/-- The trimmed text, unless nothing is left of it. -/
def trimmed? (s : String) : Option String :=
  if isBlankText s then none else some (trim s)

/-- ASCII letters in lower case, all else kept. -/
def asciiLower (s : String) : String :=
  s.map Char.toLower

/-! ### Parts -/

/-- The last `max` characters. -/
def tail (max : Nat) (s : String) : String :=
  String.ofList (s.toList.drop (s.toList.length - max))

/-- The first `max` characters, with a note if something was cut off. -/
def preview (max : Nat) (s : String) : String × Bool :=
  if s.toList.length ≤ max then (s, false)
  else (String.ofList (s.toList.take max) ++ "...(truncated)", true)

/-- What stands before and after the first occurrence of `mark`, among characters or octets. -/
def cutAt? {α : Type} [BEq α] (mark : List α) : List α → Option (List α × List α)
  | [] => if mark.isEmpty then some ([], []) else none
  | c :: r =>
    if mark.isPrefixOf (c :: r) then some ([], (c :: r).drop mark.length)
    else (cutAt? mark r).map fun (before, after) => (c :: before, after)

/-- Replaces occurrences of `mark` from left to right; the first `skip` characters are passed over. -/
def replaceFrom (mark new : List Char) (skip : Nat) : List Char → List Char
  | [] => []
  | c :: r =>
    match skip with
    | k + 1 => replaceFrom mark new k r
    | 0 =>
      if mark.isPrefixOf (c :: r) then new ++ replaceFrom mark new (mark.length - 1) r
      else c :: replaceFrom mark new 0 r

/-- Replaces each occurrence of a text that is not empty. -/
def replace (mark new s : String) : String :=
  String.ofList (replaceFrom mark.toList new.toList 0 s.toList)

/-! ### Numbers -/

/-- The value of one or more digits. -/
def decimal? (cs : List Char) : Option Nat :=
  if cs.isEmpty || cs.any (fun c => !c.isDigit) then none
  else some (cs.foldl (fun n c => n * 10 + (c.toNat - '0'.toNat)) 0)

/-- A number of 64 bits, perhaps with a plus sign. -/
def uint64? (s : String) : Option Nat :=
  let digits := match s.toList with
    | '+' :: ds => ds
    | ds => ds
  (decimal? digits).filter (· < 18446744073709551616)

end ListingCrawl.Text
