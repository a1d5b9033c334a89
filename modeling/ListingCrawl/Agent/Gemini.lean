import ListingCrawl.Agent.Tool
import ListingCrawl.Files.Path
import ListingCrawl.Json.Printer
import ListingCrawl.Json.Reader

/-! The agent `gemini`: the prompt is an argument, and its output is an object that wraps the answer. -/

namespace ListingCrawl

structure Gemini where
  bin : String
  model : Option String
  workDir : Option Path
  seconds : Nat
  deriving DecidableEq, Repr

namespace Gemini

def ofEnvironment (env : Environment) : Gemini where
  bin := env.textOr "GEMINI_CMD" "gemini"
  model := env.text? "GEMINI_MODEL"
  workDir := Agent.workDir? none env
  seconds := Agent.runSeconds env

def name : String := "gemini"

/-! ### Answers -/

/-- The answer in an output that is an object with the member `response`: a text, or an object in its
compact form. -/
def unwrapResponse? (raw : String) : Option String :=
  match (Json.ofText? (Text.trim raw)).bind (·.get? "response") with
  | some (.string s) => Text.trimmed? s
  | some (.object fields) => some (Json.compact (.object fields))
  | _ => none

/-! ### Directories -/

/-- The first of each path, where paths with the same components count as the same. -/
def distinctPaths : List Path → List Path
  | [] => []
  | p :: ps => p :: (distinctPaths ps).filter fun q => q.components != p.components

/-- The directories that exist and that the agent may use. -/
def includeDirs (files : FileTree) (workDir : Option Path) : List Path :=
  let below := match workDir with
    | none => []
    | some dir => dir :: ["out", "gemini", "codex"].map fun sub => dir.join ⟨sub⟩
  distinctPaths ((Files.mountRoots ++ below).filter files.isDirectory)

/-! ### Runs -/

def launch (g : Gemini) (files : FileTree) (i : Invocation) : Program.Launch where
  program := g.bin
  args := ["-o", "json"] ++
    ((i.model <|> g.model).map fun model => ["--model", model]).getD [] ++
    ["--approval-mode", "yolo"] ++
    (includeDirs files g.workDir).flatMap (fun dir => ["--include-directories", dir.text]) ++
    ["--allowed-mcp-server-names", "chrome-devtools", "--prompt", i.prompt]
  input := none
  workDir := g.workDir

/-- The files with credentials; one of them is enough. -/
def authFiles : List String := [".gemini/oauth_creds.json", ".gemini/google_accounts.json"]

def hasAuthFile (env : Environment) (files : FileTree) : List String → Except AgentError Bool
  | [] => .ok false
  | f :: fs => do
    if ← Agent.hasAuthFile files (← Agent.homePath env f) then return true
    hasAuthFile env files fs

variable {α : Type}

/-- Runs the agent for at most `millis`. -/
def exec (g : Gemini) (programs : Program.Programs α) (millis : Nat) (i : Invocation)
    (s : Scene α) : Except Program.Failure String × Scene α :=
  let (output, s) := Program.run programs (g.launch s.files i) millis i.cancelled s
  (output.map fun raw => (unwrapResponse? raw).getD raw, s)

/-- Looks for a file with credentials, then asks for a trivial answer. -/
def checkAuth (g : Gemini) (env : Environment) (programs : Program.Programs α) (cancelled : Bool)
    (s : Scene α) : Except AgentError Unit × Scene α :=
  match hasAuthFile env s.files authFiles with
  | .error e => (.error e, s)
  | .ok false => (.error ⟨["gemini auth files not found under ~/.gemini"]⟩, s)
  | .ok true =>
    let (result, s) := g.exec programs (Program.checkSeconds * 1000)
      (Agent.checkInvocation false cancelled) s
    ((result.map fun _ => ()).mapError (Agent.checkError name g.bin), s)

/-- The agent as an adapter; `millis` bounds its runs. -/
def adapter (g : Gemini) (env : Environment) (programs : Program.Programs α) (millis : Nat) :
    Adapter α where
  name := name
  supportsOutputLimits := true
  checkAuth := g.checkAuth env programs
  run := fun i s =>
    let (result, s) := g.exec programs millis i s
    (result.mapError (Agent.runError name g.bin), s)

end Gemini

end ListingCrawl
