import ListingCrawl.Job.Error

/-! Asking again. An answer that breaks off is asked for once more with limits on its size, if the agent
heeds them; any answer that is not accepted is sent back once to be repaired. A run that fails is not
tried again. -/

namespace ListingCrawl

/-- An accepted answer, and the number of runs after the first. -/
structure Repaired (β : Type) where
  value : β
  attempts : Nat

namespace Repair

variable {α β : Type}

/-- What is taken from an answer, or why it is rejected. The first text is the time of the answer. -/
abbrev Accept (β : Type) := String → String → Except Rejection β

def withPrompt (i : Invocation) (prompt : String) : Invocation :=
  { i with prompt }

/-- Is it worth asking for a shorter answer? -/
def wantsLimits (a : Adapter α) (first : Rejection) (raw : String) : Bool :=
  first = .extraction .invalidOrTruncated ∧ a.supportsOutputLimits ∧ Answer.looksTruncated raw

/-- The failure of a run that follows a rejected answer. -/
def retryError (tool : String) (first : Rejection) (e : AgentError) : CrawlError :=
  .execution tool (e.within ("retry after: " ++ first.message))

/-- The error when the repaired answer is rejected too. -/
def finalError (tool : String) (first : Rejection) : Rejection → CrawlError
  | .contract violations => .contract violations (some first)
  | .extraction issue => .extraction (.unrepaired tool first issue)

/-- Sends an answer back to be repaired; `last` is why it was rejected. -/
def lastRun (a : Adapter α) (i : Invocation) (accept : Accept β) (first last : Rejection)
    (raw : String) (attempts : Nat) (w : World α) : Except CrawlError (Repaired β) × World α :=
  match w.ask a (withPrompt i (Prompt.repair i.url last.message raw)) with
  | (.error e, w) => (.error (retryError a.name first e), w)
  | (.ok raw, w) =>
    match accept w.timestamp raw with
    | .ok value => (.ok ⟨value, attempts + 1⟩, w)
    | .error rejection => (.error (finalError a.name first rejection), w)

/-- Asks for the answer with limits on its size, and for a repair if that does not help. -/
def limitedRun (a : Adapter α) (i : Invocation) (accept : Accept β) (first : Rejection)
    (w : World α) : Except CrawlError (Repaired β) × World α :=
  match w.ask a (withPrompt i (Prompt.withOutputLimits i.prompt)) with
  | (.error e, w) => (.error (retryError a.name first e), w)
  | (.ok raw, w) =>
    match accept w.timestamp raw with
    | .ok value => (.ok ⟨value, 1⟩, w)
    | .error last => lastRun a i accept first last raw 1 w

/-- Runs an agent until an answer is accepted, at most three times. -/
def run (a : Adapter α) (i : Invocation) (accept : Accept β) (w : World α) :
    Except CrawlError (Repaired β) × World α :=
  match w.ask a i with
  | (.error e, w) => (.error (.execution a.name e), w)
  | (.ok raw, w) =>
    match accept w.timestamp raw with
    | .ok value => (.ok ⟨value, 0⟩, w)
    | .error first =>
      if wantsLimits a first raw then limitedRun a i accept first w
      else lastRun a i accept first first raw 0 w

end Repair

end ListingCrawl
