import ListingCrawl.Agent.Basic
import ListingCrawl.Text.Basic

/-! Agents that are programs. A program that does not end by itself is stopped when its time is over or
when the job is cancelled; one that ends with a failure is reported with the end of its output. -/

namespace ListingCrawl.Program

/-- What is started, and where. -/
structure Launch where
  program : String
  args : List String
  input : Option String
  workDir : Option Path
  deriving DecidableEq, Repr

/-- How a program ended. -/
inductive Exit where
  | status (code : UInt8)
  | signal (number : Nat)
  deriving DecidableEq, Repr

def signalName : Nat → String
  | 1 => " (SIGHUP)"
  | 2 => " (SIGINT)"
  | 3 => " (SIGQUIT)"
  | 6 => " (SIGABRT)"
  | 9 => " (SIGKILL)"
  | 11 => " (SIGSEGV)"
  | 13 => " (SIGPIPE)"
  | 15 => " (SIGTERM)"
  | _ => ""

def Exit.text : Exit → String
  | status code => "exit status: " ++ toString code.toNat
  | signal number => "signal: " ++ toString number ++ signalName number

/-- What a program does once it is started. -/
inductive Course where
  | ends (exit : Exit) (stdout stderr : Octets)
  | hangs
  deriving DecidableEq

/-- A program: its course, started at a location. -/
abbrev Behaviour (α : Type) := Launch → Location → Scene α → Course × Scene α

/-- The programs of a system by their locations, and the directories in which a bare name is looked up. -/
structure Programs (α : Type) where
  at? : Location → Option (Behaviour α)
  searchPath : List Path

/-- Why a run gave no output. -/
inductive Failure where
  | nulByte | notStarted (error : FileError)
  | timedOut (seconds : Nat)
  | cancelled
  | exited (exit : Exit) (stdout stderr : String)
  deriving DecidableEq, Repr

/-! ### Messages -/

/-- How much of an output is shown. -/
def tailLength : Nat := 2000

/-- The end of an output, unless it is blank. -/
def shown (name text : String) : String :=
  match Text.trimmed? text with
  | some text => "; " ++ name ++ ": " ++ Text.tail tailLength text
  | none => ""

/-- The failure and its causes, for the program of this name. -/
def Failure.toError (program : String) : Failure → AgentError
  | nulByte => ⟨["spawn " ++ program, "nul byte found in provided data"]⟩
  | notStarted error => ⟨["spawn " ++ program, error.message]⟩
  | timedOut seconds =>
    ⟨[program ++ " did not finish; process killed", "timeout after " ++ toString seconds ++ "s"]⟩
  | cancelled => ⟨[program ++ " did not finish; process killed", "cancelled"]⟩
  | exited exit stdout stderr =>
    ⟨["exited with " ++ exit.text ++ shown "stderr" stderr ++ shown "stdout" stdout]⟩

/-! ### Starting -/

def hasNul (s : String) : Bool :=
  s.toList.contains '\x00'

/-- The directory in which a launch takes place. -/
def startDir (files : FileTree) (l : Launch) : Except FileError Location :=
  match l.workDir with
  | none => .ok files.workDir
  | some dir => do
    let location ← files.locate dir
    match files.entry? location with
    | some .directory => .ok location
    | some (.file _) => .error .notDirectory
    | none => .error .notFound

variable {α : Type}

/-- The program at a path. -/
def findAt (programs : Programs α) (files : FileTree) (path : Path) :
    Except FileError (Behaviour α) := do
  let location ← files.locate path
  if (files.entry? location).isNone then throw .notFound
  match programs.at? location with
  | some program => return program
  | none => throw .permissionDenied

/-- The program of a launch: at its path, or of that name in the search path. -/
def find (programs : Programs α) (files : FileTree) (name : String) :
    Except FileError (Behaviour α) :=
  if name.toList.contains '/' then findAt programs files ⟨name⟩
  else
    match programs.searchPath.findSome? fun dir => (findAt programs files (dir.join ⟨name⟩)).toOption with
    | some program => if name.isEmpty then .error .notFound else .ok program
    | none => .error .notFound

/-- Starts a program. -/
def start (programs : Programs α) (l : Launch) (s : Scene α) :
    Except Failure (Course × Scene α) :=
  if hasNul l.program || l.args.any hasNul || l.workDir.any (hasNul ·.text) then .error .nulByte
  else
    match startDir s.files l with
    | .error e => .error (.notStarted e)
    | .ok dir =>
      match find programs { s.files with workDir := dir } l.program with
      | .error e => .error (.notStarted e)
      | .ok program => .ok (program l dir s)

/-- Runs a program and gives its standard output. -/
def run (programs : Programs α) (l : Launch) (millis : Nat) (cancelled : Bool) (s : Scene α) :
    Except Failure String × Scene α :=
  match start programs l s with
  | .error e => (.error e, s)
  | .ok (course, s) =>
    let result := if cancelled then .error .cancelled
      else match course with
        | .hangs => .error (.timedOut (millis / 1000))
        | .ends (.status 0) stdout _ => .ok stdout.toTextLossy
        | .ends exit stdout stderr =>
          .error (.exited exit stdout.toTextLossy stderr.toTextLossy)
    (result, s)

end ListingCrawl.Program
