import ListingCrawl.Agent.Codex
import ListingCrawl.Agent.Gemini
import ListingCrawl.Command.Line
import ListingCrawl.Job.Run

/-! What the commands do: what they print, and the error with which they fail. -/

namespace ListingCrawl.Command

/-- What commands need from outside: the environment, the programs of the system, and a way to ask a
browser for its version. -/
structure Host (α : Type) where
  env : Environment
  programs : Program.Programs α
  askBrowser : Url → Except AgentError String

/-- Why a command failed. -/
inductive Error where
  | crawl (error : CrawlError)
  | unknownTool (name : String)
  | unauthenticated (tools : List String)
  | refusedRequest (url : String) (refusal : Devtools.Refusal)
  | unreachable (url : String) (error : AgentError)
  deriving DecidableEq

def Error.message : Error → String
  | crawl error => error.message
  | unknownTool name => "unknown tool " ++ Text.quoted name
  | unauthenticated tools => "auth check failed for " ++ ", ".intercalate tools
  | refusedRequest url refusal =>
    "chrome devtools not reachable at " ++ url ++ ": " ++ refusal.message
  | unreachable url error => "chrome devtools not reachable at " ++ url ++ ": " ++ error.message

/-- What a command printed, and its error if it failed. -/
structure Report where
  output : String
  error : Option Error
  deriving DecidableEq

variable {α : Type}

/-- The agents that the environment configures. -/
def registry (h : Host α) : Registry α :=
  let codex := Codex.ofEnvironment h.env
  let gemini := Gemini.ofEnvironment h.env
  ⟨[codex.adapter h.env h.programs (codex.seconds * 1000),
      gemini.adapter h.env h.programs (gemini.seconds * 1000)],
    by simp [Codex.adapter, Gemini.adapter, Codex.name, Gemini.name]⟩

/-- Crawls a page and prints its record. -/
def runCrawl (h : Host α) (r : Request) (w : World α) : Report × World α :=
  let (o, w) := Service.run ⟨registry h, h.env⟩ r false w
  (⟨Json.pretty o.record.toJson ++ "\n", o.error.map .crawl⟩, w)

/-- Checks agents one after another and prints a line for each; `failed` did not pass. -/
def checkAll (agents : Registry α) (output : String) (failed : List String) :
    List String → World α → Report × World α
  | [], w => (⟨output, if failed.isEmpty then none else some (.unauthenticated failed)⟩, w)
  | name :: names, w =>
    match agents.get? name with
    | none => (⟨output, some (.unknownTool name)⟩, w)
    | some a =>
      match w.check a false with
      | (.ok (), w) => checkAll agents (output ++ name ++ ": ok\n") failed names w
      | (.error e, w) =>
        checkAll agents (output ++ name ++ ": " ++ e.message ++ "\n") (failed ++ [name]) names w

def runAuthCheck (agents : Registry α) (tool : Option String) (w : World α) : Report × World α :=
  let names := match tool with
    | some tool => [Text.asciiLower (Text.trim tool)]
    | none => agents.names
  checkAll agents "" [] names w

/-- Asks a browser for its version; options count more than the environment. -/
def runChromeCheck (h : Host α) (browser : Devtools) (url : Option String) : Report :=
  let env := Devtools.ofEnvironment h.env
  let url := url.getD (Devtools.url ⟨browser.host <|> env.host, browser.port <|> env.port⟩)
  match Devtools.target url with
  | .error refusal => ⟨"", some (.refusedRequest url refusal)⟩
  | .ok target =>
    match h.askBrowser target with
    | .error e => ⟨"", some (.unreachable url e)⟩
    | .ok version => ⟨version ++ " (" ++ url ++ ")\n", none⟩

/-- Runs a command. -/
def run (h : Host α) (c : Command) (w : World α) : Report × World α :=
  match c with
  | .chromeCheck browser url _ => (runChromeCheck h browser url, w)
  | .crawl request => runCrawl h request w
  | .authCheck tool => runAuthCheck (registry h) tool w

/-! ### The program -/

/-- The name of a command, which stands before its error. -/
def name : Command → String
  | .crawl _ => "crawl"
  | .authCheck _ => "auth-check"
  | .chromeCheck _ _ _ => "chrome-check"

/-- What is printed to the error output. -/
def errorText (c : Command) (r : Report) : String :=
  match r.error with
  | some e => c.name ++ ": " ++ e.message ++ "\n"
  | none => ""

/-- The exit code of the program. -/
def exitCode (r : Report) : UInt8 :=
  if r.error.isSome then 1 else 0

end ListingCrawl.Command
