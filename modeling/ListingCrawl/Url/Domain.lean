import ListingCrawl.Url.Address
import ListingCrawl.Url.DomainTable
import ListingCrawl.Url.Punycode

/-! Host names in ASCII form. A name is mapped character by character, composed, split into labels and
checked, and each label that is not ASCII is written in Punycode (UTS #46, not transitional, with
neither the rules on hyphens nor those on lengths). -/

namespace ListingCrawl.Url.Domain

open DomainTable

/-! ### Mapping -/

/-- The characters that no host name of a special scheme has. -/
def isForbidden (c : Char) : Bool :=
  c.toNat ≤ 0x20 || c.toNat == 0x7f ||
    ['%', '#', '/', ':', '<', '>', '?', '@', '[', '\\', ']', '^', '|'].contains c

def isDisallowed (n : Nat) : Bool :=
  (enclosing? disallowed n).isSome

/-- The image of a code point in a run of `mapped`. -/
def runImage? (n : Nat) : Row → Option Nat
  | [c, image] => if n = c then some image else none
  | [first, last, stride, image, imageStride] =>
    if first ≤ n ∧ n ≤ last ∧ (n - first) % stride = 0 then
      some (image + (n - first) / stride * imageStride)
    else none
  | _ => none

/-- The characters that stand for `n` in a host name; nothing if it must not occur. -/
def mapPoint? (n : Nat) : Option (List Nat) :=
  if n < 0x80 then some [if 0x41 ≤ n ∧ n ≤ 0x5a then n + 0x20 else n]
  else if isDisallowed n then none
  else if (enclosing? ignored n).isSome then some []
  else
    match mapped.findSome? (runImage? n), expanded.find? (·.head? == some n) with
    | some image, _ => some [image]
    | none, some row => some row.tail
    | none, none => some [n]

/-! ### Composition -/

def combiningClass (n : Nat) : Nat :=
  match enclosing? combining n with
  | some [_, _, k] => k
  | _ => 0

/-- A syllable of Hangul as its letters, or a composed character as its parts. -/
def decompose : Nat → Nat → List Nat
  | 0, n => [n]
  | fuel + 1, n =>
    if n < 0xc0 then [n]
    else if 0xac00 ≤ n ∧ n ≤ 0xd7a3 then
      let s := n - 0xac00
      let letters := [0x1100 + s / 588, 0x1161 + s % 588 / 28]
      if s % 28 = 0 then letters else letters ++ [0x11a7 + s % 28]
    else
      match composed.find? (·[2]? == some n) with
      | some (a :: b :: _) => decompose fuel a ++ [b]
      | _ => [n]

/-- Puts a character behind those of its own or a lower class. -/
def insertMark (n : Nat) : List Nat → List Nat
  | [] => [n]
  | m :: ms => if combiningClass m > combiningClass n then n :: m :: ms else m :: insertMark n ms

/-- Sorts each run of combining characters by class; `marks` is the run at hand. -/
def reorder (marks : List Nat) : List Nat → List Nat
  | [] => marks
  | n :: r =>
    if combiningClass n = 0 then marks ++ n :: reorder [] r
    else reorder (insertMark n marks) r

/-- The character that two compose to. -/
def compose? (a b : Nat) : Option Nat :=
  if 0x1100 ≤ a ∧ a ≤ 0x1112 ∧ 0x1161 ≤ b ∧ b ≤ 0x1175 then
    some (0xac00 + ((a - 0x1100) * 21 + (b - 0x1161)) * 28)
  else if 0xac00 ≤ a ∧ a ≤ 0xd7a3 ∧ (a - 0xac00) % 28 = 0 ∧ 0x11a8 ≤ b ∧ b ≤ 0x11c2 then
    some (a + (b - 0x11a7))
  else
    match composed.find? fun row => row[0]? == some a && row[1]? == some b with
    | some [_, _, c] => some c
    | _ => none

/-- Composes with the last starter what nothing separates from it. `pending` are the characters behind the
starter that did not compose. -/
def recompose (starter : Option Nat) (pending : List Nat) : List Nat → List Nat
  | [] => starter.toList ++ pending
  | n :: r =>
    let k := combiningClass n
    let blocked := match pending.getLast? with
      | none => false
      | some m => combiningClass m = 0 || combiningClass m ≥ k
    match starter.bind fun s => if blocked then none else compose? s n with
    | some c => recompose (some c) pending r
    | none =>
      if k = 0 then starter.toList ++ pending ++ recompose (some n) [] r
      else recompose starter (pending ++ [n]) r

/-- Canonical composition. -/
def normalize (ns : List Nat) : List Nat :=
  recompose none [] (reorder [] (ns.flatMap (decompose 4)))

/-! ### Rules for labels -/

def joiningClass (n : Nat) : Option Nat :=
  match enclosing? joining n with
  | some [_, _, k] => some k
  | _ => none

/-- A zero-width joiner follows a virama; a non-joiner does, or stands between letters that join. -/
def joinersFit (label : List Nat) : Bool :=
  label.zipIdx.all fun (n, i) =>
    if n ≠ 0x200c ∧ n ≠ 0x200d then true
    else
      let before := (label.take i).reverse
      let afterVirama := before.head?.any (combiningClass · == 9)
      let reaches (classes : List Nat) (ns : List Nat) : Bool :=
        ((ns.dropWhile (joiningClass · == some 3)).head?.bind joiningClass).any classes.contains
      afterVirama ||
        (n = 0x200c && reaches [0, 1] before && reaches [0, 2] (label.drop (i + 1)))

/-- The direction of a character as the table numbers it; none for left-to-right letters. -/
def direction (n : Nat) : Option Nat :=
  match enclosing? directions n with
  | some [_, _, k] => some k
  | _ => none

def isRightToLeft (label : List Nat) : Bool :=
  label.any fun n => [some 0, some 1, some 2].contains (direction n)

/-- The rule on text direction for a label of a name in which some label runs from right to left. -/
def directionFits (label : List Nat) : Bool :=
  let ds := label.map direction
  let last := (ds.reverse.dropWhile (· == some 9)).head?
  match ds.head? with
  | none => true
  | some none =>
    ds.all [none, some 3, some 4, some 5, some 6, some 7, some 8, some 9].contains &&
      last.any [none, some 3].contains
  | some (some d) =>
    (d = 0 || d = 1) &&
      ds.all [some 0, some 1, some 2, some 3, some 4, some 5, some 6, some 7, some 8, some 9].contains &&
      last.any [some 0, some 1, some 2, some 3].contains &&
      !(ds.contains (some 3) && ds.contains (some 2))

/-- Does a label of valid characters keep the rules that do not look at other labels? -/
def labelFits (label : List Nat) : Bool :=
  !(label.head?.any fun n => (enclosing? marks n).isSome) && joinersFit label

/-! ### Names -/

def punycodeMark : List Char := ['x', 'n', '-', '-']

/-- The characters that an ASCII label stands for: those behind the mark of Punycode, which must be in
mapped and composed form and not all ASCII, or its own. -/
def unicodeLabel? (label : List Nat) : Option (List Nat) :=
  let cs := label.map Char.ofNat
  if punycodeMark.isPrefixOf cs then do
    let ns := (← Punycode.decode? (cs.drop 4)).map Char.toNat
    if ns.all (· < 0x80) || normalize ns != ns || ns.any (fun n => mapPoint? n != some [n]) then none
    else some ns
  else some label

def asciiLabel (label : List Nat) : List Char :=
  let cs := label.map Char.ofNat
  if label.all (· < 0x80) then cs else punycodeMark ++ Punycode.encode cs

/-- The labels of a list of code points. -/
def labels : List Nat → List (List Nat)
  | [] => [[]]
  | n :: r =>
    if n = 0x2e then [] :: labels r
    else
      match labels r with
      | p :: ps => (n :: p) :: ps
      | [] => [[n]]

/-- The ASCII form of a host name, if it has one. -/
def toAscii? (name : List Char) : Option (List Char) := do
  let points := (← name.mapM fun c => mapPoint? c.toNat).flatten
  let points := normalize points
  if points.any fun n => n < 0x80 && isForbidden (Char.ofNat n) then none
  else
    let labels ← (labels points).mapM unicodeLabel?
    if labels.any fun l => !labelFits l then none
    else if labels.any isRightToLeft && labels.any (fun l => !directionFits l) then none
    else if labels.any fun l => l.any fun n => n < 0x80 && isForbidden (Char.ofNat n) then none
    else some (List.intercalate ['.'] (labels.map asciiLabel))

end ListingCrawl.Url.Domain
