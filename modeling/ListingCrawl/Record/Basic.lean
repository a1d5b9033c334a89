import ListingCrawl.Json.Basic
import ListingCrawl.Text.Basic

/-! The record that a crawl job produces: an open map in which the keys of the contract stand beside
diagnostic and provenance keys. -/

namespace ListingCrawl

/-- What a record says about the page. -/
inductive Status where
  | ok | needsManual | error
  deriving DecidableEq, Repr

namespace Status

def name : Status → String
  | ok => "ok"
  | needsManual => "needs_manual"
  | error => "error"

def ofName? (s : String) : Option Status :=
  [ok, needsManual, error].find? (·.name == s)

end Status

/-- Keys with JSON values, in order. -/
structure Record where
  fields : Fields
  deriving DecidableEq, Inhabited

namespace Record

def empty : Record := ⟨[]⟩

def get? (r : Record) (key : String) : Option Json :=
  Fields.get? r.fields key

/-- The text under `key`, if there is one. -/
def text? (r : Record) (key : String) : Option String :=
  Fields.text? r.fields key

def contains (r : Record) (key : String) : Bool :=
  Fields.contains r.fields key

def keys (r : Record) : List String :=
  Fields.keys r.fields

def insert (r : Record) (key : String) (v : Json) : Record :=
  ⟨Fields.insert r.fields key v⟩

def insertText (r : Record) (key text : String) : Record :=
  r.insert key (.string text)

def erase (r : Record) (key : String) : Record :=
  ⟨Fields.erase r.fields key⟩

/-- Gives `key` a value if it has none or null. -/
def setDefault (r : Record) (key : String) (v : Json) : Record :=
  match r.get? key with
  | none | some .null => r.insert key v
  | some _ => r

/-- The trimmed status. -/
def status? (r : Record) : Option String :=
  (r.text? "status").map Text.trim

/-- Does the record report a failure? -/
def isError (r : Record) : Bool :=
  r.status? == some Status.error.name

def toJson (r : Record) : Json :=
  .object r.fields

/-- The record of a failed job. -/
def failed (now url message : String) : Record :=
  (((empty.insertText "url" url).insertText "status" Status.error.name).insertText
    "captured_at" now).insertText "error" message

end Record

end ListingCrawl
