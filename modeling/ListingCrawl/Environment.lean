import ListingCrawl.Text.Basic

/-! Settings from environment variables. A variable that is blank counts as not set, and one that cannot
be read as asked gives the default. -/

namespace ListingCrawl

/-- The values of the variables that are set. -/
abbrev Environment := String → Option String

namespace Environment

/-- The trimmed value of a variable. -/
def text? (env : Environment) (key : String) : Option String :=
  (env key).bind Text.trimmed?

def textOr (env : Environment) (key default : String) : String :=
  (text? env key).getD default

def flagOr (env : Environment) (key : String) (default : Bool) : Bool :=
  match text? env key with
  | none => default
  | some s =>
    let s := Text.asciiLower s
    if ["1", "true", "yes", "y", "on"].contains s then true
    else if ["0", "false", "no", "n", "off"].contains s then false
    else default

/-- A positive number of seconds. -/
def secondsOr (env : Environment) (key : String) (default : Nat) : Nat :=
  (((text? env key).bind Text.uint64?).filter (· > 0)).getD default

end Environment

end ListingCrawl
