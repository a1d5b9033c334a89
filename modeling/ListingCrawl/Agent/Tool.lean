import ListingCrawl.Agent.Program
import ListingCrawl.Environment

/-! What the agents that are programs have in common: settings, the file with their credentials, and the
check that asks them for a trivial answer. -/

namespace ListingCrawl

/-- How long a run may take if nothing else is set. -/
def Program.defaultSeconds : Nat := 900

/-- How long a check of credentials may take. -/
def Program.checkSeconds : Nat := 20

namespace Agent

/-- The directory in which agents work: the one that is given, else the one in the environment. -/
def workDir? (given : Option Path) (env : Environment) : Option Path :=
  given.filter (·.text ≠ "") <|> (env.text? "RUNNER_WORKDIR").map Path.mk

/-- The number of seconds that a run may take. -/
def runSeconds (env : Environment) : Nat :=
  env.secondsOr "CRAWL_TOOL_TIMEOUT_SECS" Program.defaultSeconds

/-- A path below the user's home directory. -/
def homePath (env : Environment) (relative : String) : Except AgentError Path :=
  match (env "HOME").filter (· ≠ "") with
  | none => .error ⟨["resolve home directory: HOME is not set"]⟩
  | some home => .ok (Path.join ⟨home⟩ ⟨relative⟩)

/-- Is there a file with credentials? -/
def hasAuthFile (files : FileTree) (path : Path) : Except AgentError Bool :=
  match files.stat path with
  | .ok .directory => .error ⟨[path.text ++ " is a directory"]⟩
  | .ok (.file _) => .ok true
  | .error .notFound => .ok false
  | .error e => .error ⟨["stat " ++ path.text, e.message]⟩

/-- What an agent is asked when its credentials are checked. -/
def checkInvocation (skipGitRepoCheck cancelled : Bool) : Invocation :=
  { url := "", prompt := "Return exactly: OK", model := none, skipGitRepoCheck, cancelled }

/-- A failed run as an error of the agent of this name, whose program is `bin`. -/
def runError (name bin : String) (failure : Program.Failure) : AgentError :=
  (failure.toError bin).within (name ++ ": " ++ bin)

/-- A failed run as the failure of a check. -/
def checkError (name bin : String) : Program.Failure → AgentError
  | .timedOut _ => ⟨[name ++ " auth check: timeout"]⟩
  | failure => (runError name bin failure).within ("seems like " ++ name ++ " is not authenticated")

end Agent

end ListingCrawl
