import ListingCrawl.Url.Domain
import ListingCrawl.Url.Path

/-! URLs, read as the URL standard asks where no base is given. The special schemes are those of the web
and `file`; a URL of another scheme may have no host. -/

namespace ListingCrawl

/-- The parts of a URL as they are written in it. The host is there if an authority is, and may be empty. -/
structure Url where
  scheme : List Char
  userinfo : List Char
  host : Option (List Char)
  port : Option Nat
  path : List Char
  query : Option (List Char)
  fragment : Option (List Char)
  deriving DecidableEq, Repr

/-- Why a text is no URL. -/
inductive UrlError where
  | noScheme | emptyHost | badDomain | badPort | badIpv4 | badIpv6 | badHostCharacter
  deriving DecidableEq, Repr

def UrlError.message : UrlError → String
  | noScheme => "relative URL without a base"
  | emptyHost => "empty host"
  | badDomain => "invalid international domain name"
  | badPort => "invalid port number"
  | badIpv4 => "invalid IPv4 address"
  | badIpv6 => "invalid IPv6 address"
  | badHostCharacter => "invalid domain character"

namespace Url

/-! ### Writing -/

/-- The host, unless it is empty. -/
def host? (u : Url) : Option String :=
  (u.host.filter (!·.isEmpty)).map String.ofList

def authorityChars (u : Url) : List Char :=
  match u.host with
  | none => if ['/', '/'].isPrefixOf u.path then ['/', '.'] else []
  | some host =>
    '/' :: '/' :: (if u.userinfo.isEmpty then [] else u.userinfo ++ ['@']) ++ host ++
      (u.port.map fun n => ':' :: (toString n).toList).getD []

/-- The URL as a text. -/
def text (u : Url) : String :=
  String.ofList <|
    u.scheme ++ ':' :: u.authorityChars ++ u.path ++ (u.query.map ('?' :: ·)).getD [] ++
      (u.fragment.map ('#' :: ·)).getD []

/-! ### Schemes -/

def defaultPort? (scheme : List Char) : Option Nat :=
  [("http", 80), ("https", 443), ("ws", 80), ("wss", 443), ("ftp", 21)].lookup (String.ofList scheme)

def kindOf (scheme : List Char) : SchemeKind :=
  if scheme = ['f', 'i', 'l', 'e'] then .file
  else if (defaultPort? scheme).isSome then .special
  else .other

/-- The text without controls and spaces at its ends, and without tabs and line breaks. -/
def stripped (s : String) : List Char :=
  let isEdge := fun (c : Char) => c.toNat ≤ 0x20
  let cs := ((s.toList.dropWhile isEdge).reverse.dropWhile isEdge).reverse
  cs.filter fun c => c ≠ '\t' ∧ c ≠ '\n' ∧ c ≠ '\r'

/-- The scheme in lower case and what follows its colon. -/
def splitScheme? (cs : List Char) : Option (List Char × List Char) :=
  let (name, rest) := cs.span fun c => c.isAlphanum || c == '+' || c == '-' || c == '.'
  match rest with
  | ':' :: r => if name.head?.any Char.isAlpha then some (name.map Char.toLower, r) else none
  | _ => none

/-! ### Authority -/

/-- The octets of a bracketed host, or of a name of a special scheme. -/
def readHost (cs : List Char) : Except UrlError (List Char) :=
  if cs.head? = some '[' then
    match (if cs.getLast? = some ']' then ipv6? (cs.tail.dropLast) else none) with
    | some pieces => .ok ('[' :: (ipv6Text pieces).toList ++ [']'])
    | none => .error .badIpv6
  else
    match (Octets.toText? (percentDecode cs)).bind fun name => Domain.toAscii? name.toList with
    | none => .error .badDomain
    | some [] => .error .emptyHost
    | some host =>
      if endsInNumber host then
        match ipv4? host with
        | some address => .ok (ipv4Text address).toList
        | none => .error .badIpv4
      else .ok host

/-- The host of a scheme that is not special. -/
def readOpaqueHost (cs : List Char) : Except UrlError (List Char) :=
  if cs.head? = some '[' then readHost cs
  else if cs.any fun c => c = '\x00' || (Domain.isForbidden c && c != '%' && !isControl c) then
    .error .badHostCharacter
  else .ok (percentEncode isControl cs)

/-- A user name and a password as they are written before a host; an empty password leaves no colon. -/
def userinfoChars (cs : List Char) : List Char :=
  let (user, rest) := cs.span (· ≠ ':')
  let password := percentEncode inUserinfoSet rest.tail
  percentEncode inUserinfoSet user ++ (if password.isEmpty then [] else ':' :: password)

/-- What stands before and after the last `@`. -/
def splitUserinfo? (cs : List Char) : Option (List Char × List Char) :=
  match cs.reverse.span (· ≠ '@') with
  | (after, _ :: before) => some (before.reverse, after.reverse)
  | (_, []) => none

/-- The host part of an authority: up to the first colon outside brackets. -/
def splitPort (inBrackets : Bool) : List Char → List Char × List Char
  | [] => ([], [])
  | c :: r =>
    if c = ':' ∧ !inBrackets then ([], c :: r)
    else
      let (host, rest) := splitPort (if c = '[' then true else if c = ']' then false else inBrackets) r
      (c :: host, rest)

/-- The port behind a host, and what is left: nothing, or a backslash and what follows it. -/
def readPort (scheme : List Char) : List Char → Except UrlError (Option Nat × List Char)
  | ':' :: r =>
    let (digits, rest) := r.span Char.isDigit
    let port := (digitsValue? 10 digits).getD 0
    if port > 65535 then .error .badPort
    else if rest.head?.any (· ≠ '\\') then .error .badPort
    else .ok (if digits.isEmpty ∨ defaultPort? scheme = some port then none else some port, rest)
  | r => .ok (none, r)

/-! ### Reading -/

/-- Splits off the query and the fragment, which follow the first `?` and the first `#`. -/
def splitTail (kind : SchemeKind) (cs : List Char) :
    List Char × Option (List Char) × Option (List Char) :=
  let (front, fragment) := cs.span (· ≠ '#')
  let (path, query) := front.span (· ≠ '?')
  let encoded (set : Char → Bool) : List Char → Option (List Char)
    | [] => none
    | _ :: r => some (percentEncode set r)
  (path, encoded (if kind = .other then inQuerySet else inSpecialQuerySet) query,
    encoded inFragmentSet fragment)

/-- Behind the two slashes: authority, then path. `isWhole` says that nothing follows the path. -/
def readAuthority (scheme : List Char) (kind : SchemeKind) (isWhole : Bool) (front : List Char) :
    Except UrlError Url := do
  let ends (c : Char) := c == '/' || (kind == .special && c == '\\')
  let (authority, path) := front.span (!ends ·)
  let (userinfo, hostport) ← match splitUserinfo? authority with
    | none => .ok ([], authority)
    | some ([], []) => if isWhole && path.isEmpty then .ok ([], []) else .error .emptyHost
    | some (before, after) => .ok (userinfoChars before, after)
  let (name, portText) := splitPort false hostport
  if name.isEmpty && (kind == .special || portText.head? == some ':') then throw .emptyHost
  let host ← if kind = .special then readHost name else readOpaqueHost name
  let (port, rest) ← readPort scheme portText
  if host.isEmpty && !userinfo.isEmpty then throw .emptyHost
  let path := rest ++ path
  return { scheme, userinfo, host := some host, port
           path := if path.isEmpty && kind == .other then [] else pathText (pathSegments kind path)
           query := none, fragment := none }

/-- Behind `file:`. Only two slashes bring a host, and a drive letter is none. -/
def readFile (front : List Char) : Except UrlError Url := do
  let slash (c : Char) := c == '/' || c == '\\'
  let (host, path) ← match front with
    | a :: b :: r =>
      if slash a && slash b then
        let (name, path) := r.span (!slash ·)
        if name.isEmpty || isDriveLetter name then .ok ([], r)
        else .ok (← readHost name, path)
      else .ok ([], front)
    | _ => .ok ([], front)
  let segments := pathSegments .file path
  let local? := host == "localhost".toList || segments.head?.any isDriveLetter
  return { scheme := "file".toList, userinfo := [], host := some (if local? then [] else host)
           port := none, path := filePathText segments, query := none, fragment := none }

/-- The path of a URL without authority. -/
def readBare (scheme : List Char) (front : List Char) : Url :=
  { scheme, userinfo := [], host := none, port := none, query := none, fragment := none
    path := if front.head? = some '/' then pathText (pathSegments .other front)
      else percentEncode isControl front }

/-- Reads a URL. -/
def parse (s : String) : Except UrlError Url :=
  match splitScheme? (stripped s) with
  | none => .error .noScheme
  | some (scheme, rest) => do
    let kind := kindOf scheme
    let (front, query, fragment) := splitTail kind rest
    let isWhole := query.isNone && fragment.isNone
    let u ← match kind, front with
      | .file, _ => readFile front
      | .special, _ => readAuthority scheme kind isWhole (front.dropWhile fun c => c = '/' || c = '\\')
      | .other, '/' :: '/' :: r => readAuthority scheme kind isWhole r
      | .other, _ => .ok (readBare scheme front)
    return { u with query, fragment }

end Url

end ListingCrawl
