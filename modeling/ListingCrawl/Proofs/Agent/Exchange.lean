import ListingCrawl.Agent.Basic

/-! What is said between the program and an agent. An exchange is one run with its answer and the time
at which it came; a list of exchanges leads from one world to another if the agent, asked for them in
turn, gives these answers. -/

namespace ListingCrawl

/-- A run of an agent: what was asked, what came back, and when. -/
structure Exchange where
  invocation : Invocation
  answer : Except AgentError String
  time : String

/-- Asked in turn, the agent answers as listed, and leaves the second world behind. -/
inductive Asked {α : Type} (a : Adapter α) : World α → List Exchange → World α → Prop where
  | nil (w : World α) : Asked a w [] w
  | cons {w middle after : World α} {i : Invocation} {answer : Except AgentError String}
      {rest : List Exchange} (head : w.ask a i = (answer, middle)) (tail : Asked a middle rest after) :
      Asked a w (⟨i, answer, middle.timestamp⟩ :: rest) after

namespace Asked

variable {α : Type} {a : Adapter α} {w middle after : World α}

theorem one {i : Invocation} {answer : Except AgentError String} (h : w.ask a i = (answer, after)) :
    Asked a w [⟨i, answer, after.timestamp⟩] after :=
  .cons h (.nil after)

theorem append {es fs : List Exchange} (h : Asked a w es middle) (h' : Asked a middle fs after) :
    Asked a w (es ++ fs) after := by
  induction h with
  | nil => exact h'
  | cons head _ ih => exact .cons head (ih h')

/-- The world keeps a record of exactly these runs. -/
theorem calls_eq {es : List Exchange} (h : Asked a w es after) :
    after.calls = w.calls ++ es.map fun e => .run a.name e.invocation := by
  induction h with
  | nil => simp
  | cons head _ ih =>
    have hm := congrArg (fun p => p.2.calls) head
    simp only [World.ask] at hm
    rw [ih, ← hm]
    simp

end Asked

end ListingCrawl
