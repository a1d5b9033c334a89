import ListingCrawl.Answer.Objects

/-! What is wrong with an answer from which no object could be taken. The issue decides which prompt the
agent gets next. -/

namespace ListingCrawl.Answer

open Octets Text

/-- Why an answer as a whole is no usable object. -/
inductive Issue where
  | emptyAnswer | invalidOrTruncated | severalValues | notAnObject | missingStatus | unknown
  deriving DecidableEq, Repr

def Issue.message : Issue → String
  | emptyAnswer => "empty response"
  | invalidOrTruncated => "invalid or truncated JSON"
  | severalValues => "multiple top-level JSON values"
  | notAnObject => "top-level JSON is not an object"
  | missingStatus => "missing status"
  | unknown => "unknown contract issue"

/-- The issue of the value that a text starts with; objects nested in it do not count. -/
def issueOfValue (text : List Char) : Issue :=
  match Json.readFirst? (ofChars text) with
  | none | some (.error _) => .invalidOrTruncated
  | some (.ok (v, rest)) =>
    match Json.readFirst? rest with
    | some (.ok _) => .severalValues
    | _ =>
      match v with
      | .object fields => if hasStatus fields then .unknown else .missingStatus
      | _ => .notAnObject

/-- The text to judge: the block of an answer that starts with a fence, else the answer. -/
def unfenced (text : List Char) : List Char :=
  if fence.isPrefixOf text then ((fenceBody? text).map trimChars).getD text else text

def issueOf (text : List Char) : Issue :=
  if text.isEmpty then .emptyAnswer else issueOfValue (unfenced text)

/-- Classifies an answer. -/
def diagnose (raw : String) : Issue :=
  issueOf (trimChars raw.toList)

/-- The text of an answer without its fence, even one that is never closed. -/
def opened (text : List Char) : List Char :=
  if fence.isPrefixOf text then
    match fenceBody? text with
    | some body => trimChars body
    | none =>
      match cutAt? ['\n'] text with
      | some (_, rest) => trimChars rest
      | none => []
  else text

/-- Does the answer start an object that never ends? -/
def looksTruncated (raw : String) : Bool :=
  let text := opened (trimChars raw.toList)
  ['\x7b'].isPrefixOf text && issueOf text == .invalidOrTruncated

/-- Why an answer gave no object. -/
inductive Refusal where
  | noObject (issue : Issue)
  | noStatus (issue : Issue)
  deriving DecidableEq, Repr

def Refusal.message : Refusal → String
  | noObject issue => "no valid JSON object found (" ++ issue.message ++ ")"
  | noStatus issue => "no JSON object with status found (" ++ issue.message ++ ")"

/-- The first object of an answer, or what is wrong with the answer. -/
def firstObject (raw : String) : Except Refusal Fields :=
  match firstObject? raw with
  | some fields => .ok fields
  | none => .error (.noObject (diagnose raw))

/-- The first object with a status, or what is wrong with the answer. -/
def statusObject (raw : String) : Except Refusal Fields :=
  match statusObject? raw with
  | some fields => .ok fields
  | none => .error (.noStatus (diagnose raw))

end ListingCrawl.Answer
