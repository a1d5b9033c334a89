import ListingCrawl.Files.Path
import ListingCrawl.Text.Basic
import ListingCrawl.Text.Quoted
import ListingCrawl.Url.Reader

/-! The marketplaces whose product pages are crawled. A page belongs to a marketplace if the labels of
its host end with those of one of the marketplace's domains. -/

namespace ListingCrawl

inductive Marketplace where
  | shopee | taobao
  deriving DecidableEq, Repr

namespace Marketplace

def name : Marketplace → String
  | shopee => "shopee"
  | taobao => "taobao"

/-- The prompt template that is used when a request names none. -/
def promptFile (m : Marketplace) : Path :=
  ⟨"config/prompt." ++ m.name ++ ".product.txt"⟩

/-- Why a page belongs to no marketplace. -/
inductive Unknown where
  | badUrl (raw : String) (error : UrlError)
  | noHost (raw : String)
  | otherHost (host : String)
  deriving DecidableEq, Repr

def Unknown.message : Unknown → String
  | badUrl raw error => "invalid URL: " ++ Text.quoted raw ++ ": " ++ error.message
  | noHost raw => "invalid URL (missing host): " ++ Text.quoted raw
  | otherHost host =>
    "unsupported URL host " ++ Text.quoted host ++ " (only Shopee/Taobao/Tmall are supported)"

/-- The host is the domain or ends with it behind a dot. -/
def hostMatches (host domain : String) : Bool :=
  host == domain || ('.' :: domain.toList).isSuffixOf host.toList

/-- The marketplace of a host in lower case. -/
def ofHost? (host : String) : Option Marketplace :=
  if hostMatches host "shopee.tw" then some shopee
  else if hostMatches host "taobao.com" || hostMatches host "tmall.com" then some taobao
  else none

/-- The marketplace that a product page belongs to. -/
def ofUrl (raw : String) : Except Unknown Marketplace :=
  match Url.parse (Text.trim raw) with
  | .error e => .error (.badUrl raw e)
  | .ok url =>
    match url.host? with
    | none => .error (.noHost raw)
    | some host =>
      let host := Text.asciiLower host
      match ofHost? host with
      | some m => .ok m
      | none => .error (.otherHost host)

end Marketplace

end ListingCrawl
