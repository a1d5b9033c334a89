import ListingCrawl.Devtools
import ListingCrawl.Request
import ListingCrawl.Text.Basic

/-! The command line. Its first argument names a command and the rest are the command's options, each a
flag or with one value, which may be attached by an equals sign. An option is settled when the next one is
met or the arguments end; an unknown argument is reported before what is wrong with an option that is not
yet settled. -/

namespace ListingCrawl.Command

/-- Why arguments do not parse, or what they ask for instead of a command. -/
inductive UsageError where
  | noCommand | unknownCommand | unknownArgument | missingArgument | repeatedArgument
  | noValue | badValue | unneededValue
  | help | version
  deriving DecidableEq, Repr

/-! ### Options -/

/-- What an option takes. -/
inductive Takes where
  | nothing | text | path | number
  deriving DecidableEq, Repr

structure Opt where
  name : String
  takes : Takes
  deriving DecidableEq, Repr

/-- Settled options with their values. -/
abbrev Values := List (String × String)

/-- An option that was met last and may still get its value. -/
structure Pending where
  opt : Opt
  value : Option String
  deriving DecidableEq, Repr

/-- A path must not be empty, and a number must be one. -/
def checkValue (takes : Takes) (value : String) : Except UsageError Unit :=
  match takes with
  | .path => if value = "" then .error .noValue else .ok ()
  | .number => if (Text.uint64? value).isNone then .error .badValue else .ok ()
  | _ => .ok ()

def settleValue (opt : Opt) (value : String) (values : Values) : Except UsageError Values := do
  if (values.lookup opt.name).isSome then throw .repeatedArgument
  checkValue opt.takes value
  return values ++ [(opt.name, value)]

def settle (pending : Option Pending) (values : Values) : Except UsageError Values :=
  match pending with
  | none => .ok values
  | some ⟨_, none⟩ => .error .noValue
  | some ⟨opt, some value⟩ => settleValue opt value values

/-! ### Arguments -/

/-- What an argument looks like. -/
inductive Shape where
  | separator
  | long (name : String) (value : Option String)
  | short (letter : Char)
  | plain
  deriving DecidableEq, Repr

def shapeOf (arg : String) : Shape :=
  match arg.toList with
  | ['-', '-'] => .separator
  | '-' :: '-' :: r =>
    match r.span (· ≠ '=') with
    | (name, []) => .long (String.ofList name) none
    | (name, _ :: value) => .long (String.ofList name) (some (String.ofList value))
  | '-' :: c :: _ => .short c
  | _ => .plain

/-- Meets the option of this name, perhaps with an attached value. -/
def meet (opts : List Opt) (name : String) (value : Option String) (pending : Option Pending)
    (values : Values) : Except UsageError (Option Pending × Values) :=
  match opts.find? (·.name == name), value with
  | some ⟨name, .nothing⟩, none => do
    return (none, ← settleValue ⟨name, .nothing⟩ "" (← settle pending values))
  | some ⟨_, .nothing⟩, some _ => .error .unneededValue
  | some opt, none => do return (some ⟨opt, none⟩, ← settle pending values)
  | some opt, some value => do return (none, ← settleValue opt value (← settle pending values))
  | none, value =>
    if name = "help" then
      if value.isSome then .error .unneededValue
      else (settle pending values).bind fun _ => .error .help
    else .error .unknownArgument

/-- Reads the options of a command. -/
def readOptions (opts : List Opt) (pending : Option Pending) (values : Values) :
    List String → Except UsageError Values
  | [] => settle pending values
  | arg :: args =>
    match shapeOf arg, pending with
    | .separator, _ =>
      match args with
      | [] => settle pending values
      | _ :: _ => .error .unknownArgument
    | .long name value, _ =>
      match meet opts name value pending values with
      | .error e => .error e
      | .ok (pending, values) => readOptions opts pending values args
    | .short 'h', _ => (settle pending values).bind fun _ => .error .help
    | .short _, _ => .error .unknownArgument
    | .plain, some ⟨opt, none⟩ => readOptions opts (some ⟨opt, some arg⟩) values args
    | .plain, _ => .error .unknownArgument

end Command

/-! ### Commands -/

/-- A command with its arguments. -/
inductive Command where
  /-- Crawl one product page and print the record. -/
  | crawl (request : Request)
  /-- Check the credentials of one agent, or of all. -/
  | authCheck (tool : Option String)
  /-- Check that a browser answers. -/
  | chromeCheck (browser : Devtools) (url : Option String) (seconds : Nat)
  deriving DecidableEq, Repr

namespace Command

def crawlOptions : List Opt :=
  [⟨"url", .text⟩, ⟨"out", .path⟩, ⟨"tool", .text⟩, ⟨"prompt-mode", .text⟩,
    ⟨"prompt-file", .path⟩, ⟨"skill", .text⟩, ⟨"run-id", .text⟩, ⟨"model", .text⟩,
    ⟨"skip-git-repo-check", .nothing⟩]

def readCrawl (args : List String) : Except UsageError Command := do
  let values ← readOptions crawlOptions none [] args
  let some url := values.lookup "url" | throw .missingArgument
  return .crawl {
    url
    outDir := ⟨(values.lookup "out").getD "out"⟩
    tool := values.lookup "tool"
    promptMode := values.lookup "prompt-mode"
    promptFile := (values.lookup "prompt-file").map Path.mk
    skillName := values.lookup "skill"
    runId := values.lookup "run-id"
    model := values.lookup "model"
    skipGitRepoCheck := (values.lookup "skip-git-repo-check").isSome }

def readAuthCheck (args : List String) : Except UsageError Command := do
  let values ← readOptions [⟨"tool", .text⟩] none [] args
  return .authCheck (values.lookup "tool")

def chromeOptions : List Opt :=
  [⟨"host", .text⟩, ⟨"port", .text⟩, ⟨"url", .text⟩, ⟨"timeout-secs", .number⟩]

def readChromeCheck (args : List String) : Except UsageError Command := do
  let values ← readOptions chromeOptions none [] args
  return .chromeCheck ⟨values.lookup "host", values.lookup "port"⟩ (values.lookup "url")
    (((values.lookup "timeout-secs").bind Text.uint64?).getD Devtools.defaultSeconds)

/-- The commands by name. -/
def commands : List (String × (List String → Except UsageError Command)) :=
  [("crawl", readCrawl), ("auth-check", readAuthCheck), ("chrome-check", readChromeCheck)]

/-- The command `help`, perhaps with the name of a command. -/
def readHelp : List String → UsageError
  | [] | ["help"] => .help
  | [name] => if (commands.lookup name).isSome then .help else .unknownCommand
  | _ => .unknownCommand

/-- What is wrong behind a separator in place of a command. -/
def afterSeparator : List String → UsageError
  | [] => .noCommand
  | arg :: _ =>
    if arg = "help" ∨ (commands.lookup arg).isSome then .unknownArgument else .unknownCommand

/-- An option in place of a command. -/
def rootOption (name : String) (hasValue : Bool) : UsageError :=
  if name = "help" ∨ name = "version" then
    if hasValue then .unneededValue else if name = "help" then .help else .version
  else .unknownArgument

/-- Reads the arguments of the program. -/
def read : List String → Except UsageError Command
  | [] => .error .noCommand
  | arg :: args =>
    if arg = "help" then .error (readHelp args)
    else
      match commands.lookup arg, shapeOf arg with
      | some command, _ => command args
      | none, .separator => .error (afterSeparator args)
      | none, .long name value => .error (rootOption name value.isSome)
      | none, .short 'h' => .error .help
      | none, .short 'V' => .error .version
      | none, .short _ => .error .unknownArgument
      | none, .plain => .error .unknownCommand

end Command

end ListingCrawl
