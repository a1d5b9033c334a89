import ListingCrawl.Files.Tree
import ListingCrawl.Time.Instant

/-! Agents. An agent is asked with a prompt, may change files while it works, and answers with a text or
fails. What is outside the program's control is in a `Scene`: the files, the clock and whatever the
agents keep. -/

namespace ListingCrawl

/-- A failure with its causes, the outermost first. -/
structure AgentError where
  chain : List String
  deriving DecidableEq, Repr

namespace AgentError

def message (e : AgentError) : String :=
  ": ".intercalate e.chain

/-- The failure seen from a wider context. -/
def within (context : String) (e : AgentError) : AgentError :=
  ⟨context :: e.chain⟩

end AgentError

/-- What an agent is asked to do. -/
structure Invocation where
  url : String
  prompt : String
  model : Option String
  skipGitRepoCheck : Bool
  cancelled : Bool
  deriving DecidableEq, Repr

/-- The files, the clock and the state of the agents. -/
structure Scene (α : Type) where
  files : FileTree
  now : Time.Instant
  agents : α

/-- A kind of agent. A failed check of its credentials is only a warning. -/
structure Adapter (α : Type) where
  name : String
  /-- An answer that breaks off may fit if the prompt limits its size. -/
  supportsOutputLimits : Bool
  checkAuth : Bool → Scene α → Except AgentError Unit × Scene α
  run : Invocation → Scene α → Except AgentError String × Scene α

/-! ### Registries -/

/-- Two adapters of one name. -/
structure DuplicateName where
  name : String
  deriving DecidableEq, Repr

def DuplicateName.message (d : DuplicateName) : String :=
  "duplicate adapter name: " ++ d.name

/-- Adapters by name. -/
structure Registry (α : Type) where
  adapters : List (Adapter α)
  distinct : (adapters.map Adapter.name).Nodup

namespace Registry

variable {α : Type}

def empty : Registry α := ⟨[], by simp⟩

def add (r : Registry α) (a : Adapter α) : Except DuplicateName (Registry α) :=
  if h : a.name ∈ r.adapters.map Adapter.name then .error ⟨a.name⟩
  else .ok ⟨a :: r.adapters, by simpa using ⟨by simpa using h, r.distinct⟩⟩

def ofList (as : List (Adapter α)) : Except DuplicateName (Registry α) :=
  as.foldlM add empty

def get? (r : Registry α) (name : String) : Option (Adapter α) :=
  r.adapters.find? (·.name == name)

/-- The names in rising order. -/
def names (r : Registry α) : List String :=
  (r.adapters.map Adapter.name).mergeSort fun a b => !(b < a)

end Registry

/-! ### Calls -/

/-- A call that reached an agent. -/
inductive AgentCall where
  | check (tool : String)
  | run (tool : String) (invocation : Invocation)
  deriving DecidableEq, Repr

/-- A scene with what the program itself keeps: a supply of fresh numbers and the calls made so far. -/
structure World (α : Type) extends Scene α where
  fresh : Nat
  calls : List AgentCall

namespace World

variable {α : Type}

/-- The clock's reading as records write it. -/
def timestamp (w : World α) : String :=
  w.now.rfc3339

/-- Checks an agent's credentials. -/
def check (w : World α) (a : Adapter α) (cancelled : Bool) : Except AgentError Unit × World α :=
  let (result, scene) := a.checkAuth cancelled w.toScene
  (result, { w with toScene := scene, calls := w.calls ++ [.check a.name] })

/-- Runs an agent once. -/
def ask (w : World α) (a : Adapter α) (i : Invocation) : Except AgentError String × World α :=
  let (result, scene) := a.run i w.toScene
  (result, { w with toScene := scene, calls := w.calls ++ [.run a.name i] })

end World

end ListingCrawl
