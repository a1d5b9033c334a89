import ListingCrawl.Agent.Tool

/-! The agent `codex`: the prompt is its input, and its answer is the last message that it leaves in a
file, or else its output. -/

namespace ListingCrawl

structure Codex where
  bin : String
  model : Option String
  skipGitRepoCheck : Bool
  workDir : Option Path
  seconds : Nat
  deriving DecidableEq, Repr

namespace Codex

def ofEnvironment (env : Environment) : Codex where
  bin := env.textOr "CODEX_CMD" "codex"
  model := env.text? "CODEX_MODEL"
  skipGitRepoCheck := env.flagOr "CODEX_SKIP_GIT_REPO_CHECK" false
  workDir := Agent.workDir? none env
  seconds := Agent.runSeconds env

def name : String := "codex"

def launch (c : Codex) (lastMessage : Path) (i : Invocation) : Program.Launch where
  program := c.bin
  args := ["exec"] ++
    (if i.skipGitRepoCheck || c.skipGitRepoCheck then ["--skip-git-repo-check"] else []) ++
    ((i.model <|> c.model).map fun model => ["--model", model]).getD [] ++
    ["--color", "never", "--output-last-message", lastMessage.text, "-"]
  input := some i.prompt
  workDir := c.workDir

/-- Where an agent leaves its last message. -/
def messageFile (env : Environment) : Path :=
  Path.join ⟨((env "TMPDIR").filter (· ≠ "")).getD "/tmp"⟩ ⟨"codex-last-message"⟩

/-- Why a run gave no answer. -/
inductive Failure where
  | noMessageFile (error : FileError)
  | program (failure : Program.Failure)
  | badMessage (error : FileError)
  deriving DecidableEq, Repr

def Failure.toError (c : Codex) : Failure → AgentError
  | noMessageFile error => ⟨["create codex output temp file", error.message]⟩
  | program failure => Agent.runError name c.bin failure
  | badMessage error => ⟨["read codex last message", error.message]⟩

variable {α : Type}

/-- The last message, or the output if that is blank. -/
def answer (files : FileTree) (lastMessage : Path) (output : String) : Except Failure String :=
  match files.readText lastMessage with
  | .error e => .error (.badMessage e)
  | .ok message => .ok (if Text.isBlankText message then output else message)

/-- Removes a file if it is there. -/
def discard (files : FileTree) (file : Path) : FileTree :=
  match files.locate file with
  | .ok location => files.remove location
  | .error _ => files

/-- Runs the agent for at most `millis`. -/
def exec (c : Codex) (programs : Program.Programs α) (lastMessage : Path) (millis : Nat)
    (i : Invocation) (s : Scene α) : Except Failure String × Scene α :=
  match s.files.write lastMessage [] with
  | .error e => (.error (.noMessageFile e), s)
  | .ok files =>
    let (output, s) :=
      Program.run programs (c.launch lastMessage i) millis i.cancelled { s with files }
    let result := match output with
      | .error failure => .error (.program failure)
      | .ok output => answer s.files lastMessage output
    (result, { s with files := discard s.files lastMessage })

/-- Looks for the file with credentials, then asks for a trivial answer. -/
def checkAuth (c : Codex) (env : Environment) (programs : Program.Programs α) (cancelled : Bool)
    (s : Scene α) : Except AgentError Unit × Scene α :=
  let found : Except AgentError Unit := do
    let file ← Agent.homePath env ".codex/auth.json"
    if ← Agent.hasAuthFile s.files file then return ()
    throw ⟨["codex auth file not found: " ++ file.text]⟩
  match found with
  | .error e => (.error e, s)
  | .ok () =>
    let (result, s) := c.exec programs (messageFile env) (Program.checkSeconds * 1000)
      (Agent.checkInvocation true cancelled) s
    match result with
    | .ok _ => (.ok (), s)
    | .error (.program failure) => (.error (Agent.checkError name c.bin failure), s)
    | .error failure =>
      (.error ((failure.toError c).within "seems like codex is not authenticated"), s)

/-- The agent as an adapter; `millis` bounds its runs. -/
def adapter (c : Codex) (env : Environment) (programs : Program.Programs α) (millis : Nat) :
    Adapter α where
  name := name
  supportsOutputLimits := false
  checkAuth := c.checkAuth env programs
  run := fun i s =>
    let (result, s) := c.exec programs (messageFile env) millis i s
    (result.mapError (Failure.toError c), s)

end Codex

end ListingCrawl
