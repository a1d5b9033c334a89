import ListingCrawl.Agent.Basic
import ListingCrawl.Marketplace
import ListingCrawl.Record.Basic

/-! Where a record comes from. These facts are the job's own: they replace what an agent wrote under the
same keys. -/

namespace ListingCrawl

/-- What a result was taken from. -/
inductive ResultSource where
  | toolOutput | artifactFinal | artifactSnapshot
  deriving DecidableEq, Repr

def ResultSource.name : ResultSource → String
  | toolOutput => "tool_output"
  | artifactFinal => "artifact_final"
  | artifactSnapshot => "artifact_snapshot"

/-- What is known about a job; `none` where the job has no such fact. -/
structure Provenance where
  source : Option Marketplace
  tool : Option String
  resultSource : Option ResultSource
  runId : Option String
  authCheckError : Option AgentError
  repairAttempts : Option Nat
  toolError : Option AgentError
  deriving DecidableEq, Repr

namespace Provenance

/-- Nothing is known but the agent's name. -/
def ofTool (tool : String) : Provenance :=
  ⟨none, some tool, none, none, none, none, none⟩

/-- The facts under their keys, in the order in which they are written. -/
def fields (p : Provenance) : Fields :=
  (p.source.map fun m => ("source", Json.string m.name)).toList ++
  (p.tool.map fun tool => ("tool", Json.string tool)).toList ++
  (p.resultSource.map fun s => ("result_source", Json.string s.name)).toList ++
  (p.runId.map fun runId => ("run_id", Json.string runId)).toList ++
  (p.authCheckError.map fun e => ("auth_check_error", Json.string e.message)).toList ++
  (p.repairAttempts.map fun n => ("repair_attempts", Json.number (toString n))).toList ++
  (p.toolError.map fun e => ("tool_error", Json.string e.message)).toList

/-- Writes the facts into a record. -/
def stamp (p : Provenance) (r : Record) : Record :=
  p.fields.foldl (fun r e => r.insert e.1 e.2) r

end Provenance

end ListingCrawl
