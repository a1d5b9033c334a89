import ListingCrawl.Environment
import ListingCrawl.Url.Reader

/-! The address at which a browser tells its version. A request to an address that is no URL of the web is
refused before a connection is opened. -/

namespace ListingCrawl

/-- Where a browser listens, as far as it is known. -/
structure Devtools where
  host : Option String
  port : Option String
  deriving DecidableEq, Repr

namespace Devtools

def ofEnvironment (env : Environment) : Devtools where
  host := env.text? "CHROME_DEBUG_HOST"
  port := env.text? "CHROME_DEBUG_PORT"

def defaultHost : String := "127.0.0.1"

def defaultPort : String := "9222"

/-- How long a request may take. -/
def defaultSeconds : Nat := 5

def versionUrl (host port : String) : String :=
  "http://" ++ host ++ ":" ++ port ++ "/json/version"

/-- The version URL of a browser, where defaults fill the gaps. -/
def url (d : Devtools) : String :=
  versionUrl (d.host.getD defaultHost) (d.port.getD defaultPort)

/-! ### Refused requests -/

/-- Why a request is refused. -/
inductive Refusal where
  | noUrl
  | badUrl (raw : String) (error : UrlError)
  | badScheme (raw : String) (url : Url)
  | badAddress (raw : String) (url : Url)
  deriving DecidableEq, Repr

/-- A URL without user name and password. -/
def withoutUser (u : Url) : Url :=
  { u with userinfo := [] }

def Refusal.message : Refusal → String
  | noUrl => "missing url"
  | badUrl raw error => "GET " ++ raw ++ ": builder error: " ++ error.message
  | badScheme raw url =>
    "GET " ++ raw ++ ": builder error for url (" ++ (withoutUser url).text ++
      "): URL scheme is not allowed"
  | badAddress raw url =>
    "GET " ++ raw ++ ": builder error for url (" ++ (withoutUser url).text ++
      "): Parsed Url is not a valid Uri"

/-- Characters that a host of a URL may have but not one of a request. -/
def isUnsendable (c : Char) : Bool :=
  ['"', '\x60', '\x7b', '\x7d'].contains c

/-- The URL of a request. -/
def target (raw : String) : Except Refusal Url :=
  if Text.isBlankText raw then .error .noUrl
  else
    match Url.parse raw with
    | .error e => .error (.badUrl raw e)
    | .ok url =>
      if url.scheme ≠ "http".toList ∧ url.scheme ≠ "https".toList then .error (.badScheme raw url)
      else if (url.host.getD []).any isUnsendable then .error (.badAddress raw url)
      else .ok url

end Devtools

end ListingCrawl
