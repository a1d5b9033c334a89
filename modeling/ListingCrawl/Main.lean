import ListingCrawl.Command.Run
import Std.Time.Date.PlainDate
import Std.Time.DateTime.Timestamp

/-! The program. It reads the files that a command may ask for, runs the command on them, and writes back
what is new. It starts no other program and opens no connection: an agent that is installed is taken to
print what stands on the standard input, and no browser answers. -/

namespace ListingCrawl.Command

/-! ### Surroundings -/

/-- The variables that settings are read from. -/
def settingNames : List String :=
  ["CHROME_DEBUG_HOST", "CHROME_DEBUG_PORT", "CODEX_CMD", "CODEX_MODEL", "CODEX_SKIP_GIT_REPO_CHECK",
    "CRAWL_PROMPT_MODE", "CRAWL_SKILL_NAME", "CRAWL_TOOL", "CRAWL_TOOL_TIMEOUT_SECS", "GEMINI_CMD",
    "GEMINI_MODEL", "HOME", "PATH", "RUNNER_WORKDIR", "TMPDIR"]

def readEnvironment : IO Environment := do
  let values ← settingNames.mapM fun key => return (key, ← IO.getEnv key)
  return fun key => (values.lookup key).join

/-- The clock's reading, to the millisecond. -/
def readClock : IO Time.Instant := do
  let millis := (← Std.Time.Timestamp.now).toMillisecondsSinceUnixEpoch.val.toNat
  let seconds := millis / 1000
  let date := Std.Time.PlainDate.ofEpochDay ⟨seconds / 86400⟩
  let time : Time.DateTime :=
    ⟨date.year.toNat, date.month.val.toNat, date.day.val.toNat, seconds / 3600 % 24,
      seconds / 60 % 60, seconds % 60⟩
  if valid : time.isValid = true then
    return { time, milli := millis % 1000, valid, milli_lt := Nat.mod_lt _ (by decide) }
  throw (IO.userError "the clock is out of range")

partial def readAll (input : IO.FS.Stream) (read : ByteArray) : IO ByteArray := do
  let bytes ← input.read 65536
  if bytes.isEmpty then return read
  readAll input (read ++ bytes)

/-! ### Files -/

def diskPath (l : Location) : String :=
  "/" ++ "/".intercalate l

def locationOf (path : String) : Location :=
  (path.splitOn "/").filter (· ≠ "")

/-- The places that one meets on the way along a path. -/
def placesOn (workDir : Location) (p : Path) : List Location :=
  let start := if p.isAbsolute then [] else workDir
  let names := (Path.pieces p.text.toList).map String.ofList
  (names.foldl (fun (l, met) n =>
    let l := if n = "" ∨ n = "." then l else if n = ".." then l.dropLast else l ++ [n]
    (l, met ++ [l])) (start, [start])).2

/-- What is at a place on disk; nothing if it cannot be read. -/
def readEntry (l : Location) : IO (Option Entry) := do
  if ← ((← IO.currentDir) / diskPath l).isDir then return some .directory
  try return some (.file (← IO.FS.readBinFile (diskPath l)).toList)
  catch _ => return none

/-- Takes a place into the tree, with the directories above it. -/
def mount (t : FileTree) (l : Location) : IO FileTree := do
  let mut t := t
  for n in List.range (l.length + 1) do
    if (t.entry? (l.take n)).isNone then
      if let some e ← readEntry (l.take n) then t := t.set (l.take n) e
  return t

/-- Takes a directory into the tree, with all that is in it. -/
def mountBelow (t : FileTree) (l : Location) : IO FileTree := do
  let place := (← IO.currentDir) / diskPath l
  let mut t ← mount t l
  if ← place.isDir then
    for p in ← place.walkDir do
      t ← mount t (locationOf p.toString)
  return t

/-- Where the programs of the agents may be. -/
def programPaths (env : Environment) : List Path :=
  [(Codex.ofEnvironment env).bin, (Gemini.ofEnvironment env).bin].flatMap fun bin =>
    if bin.toList.contains '/' then [⟨bin⟩]
    else (((env "PATH").getD "").splitOn ":").map fun dir => Path.join ⟨dir⟩ ⟨bin⟩

/-- The files and directories that every command may ask for. -/
def commonPaths (env : Environment) : List Path :=
  let home := (env "HOME").toList.flatMap fun home =>
    (".codex/auth.json" :: Gemini.authFiles).map fun f => Path.join ⟨home⟩ ⟨f⟩
  let work := (Agent.workDir? none env).toList.flatMap fun dir =>
    dir :: ["out", "gemini", "codex"].map fun sub => dir.join ⟨sub⟩
  home ++ work ++ Files.mountRoots ++ [⟨(env "TMPDIR").getD "/tmp"⟩] ++ programPaths env

/-- The files that a command may ask for. -/
def pathsOf (env : Environment) : Command → List Path
  | .crawl r => r.outDir :: r.promptFile.toList ++ [Marketplace.shopee, .taobao].map Marketplace.promptFile ++
      commonPaths env
  | .authCheck _ => commonPaths env
  | .chromeCheck _ _ _ => []

def readFiles (env : Environment) (c : Command) : IO FileTree := do
  let workDir := locationOf (← IO.currentDir).toString
  let mut t ← mount ⟨workDir, []⟩ workDir
  for p in pathsOf env c do
    for l in placesOn workDir p do
      t ← mount t l
  if let .crawl r := c then
    t ← mountBelow t ((placesOn workDir r.outDir).getLastD workDir)
  return t

/-- Makes the disk hold what a tree holds beyond another one. -/
def writeFiles (before after : FileTree) : IO Unit := do
  for (l, e) in after.entries do
    if before.entry? l ≠ some e then
      match e with
      | .directory => IO.FS.createDirAll (diskPath l)
      | .file content => IO.FS.writeBinFile (diskPath l) ⟨content.toArray⟩

/-! ### Running -/

/-- An agent that prints what it was given. -/
def replay : Program.Behaviour Octets := fun _ _ s =>
  (.ends (.status 0) s.agents [], s)

def hostOf (env : Environment) : Host Octets where
  env
  programs := {
    at? := fun _ => some replay
    searchPath := (((env "PATH").getD "").splitOn ":").map Path.mk }
  askBrowser := fun _ => .error ⟨["no connection is opened"]⟩

def runOnDisk (c : Command) : IO UInt32 := do
  let env ← readEnvironment
  let files ← readFiles env c
  let answer ← match c with
    | .chromeCheck _ _ _ => pure .empty
    | _ => readAll (← IO.getStdin) .empty
  let fresh ← IO.rand 0 0xffffffff
  let (report, w) := run (hostOf env) c
    { files, now := ← readClock, agents := answer.toList, fresh, calls := [] }
  writeFiles files w.files
  IO.print report.output
  IO.eprint (c.errorText report)
  return (exitCode report).toUInt32

def usage : String :=
  "usage: listing-crawl crawl --url URL [--out DIR] [--tool NAME] [--prompt-mode MODE]\n" ++
  "         [--prompt-file FILE] [--skill NAME] [--run-id ID] [--model NAME] [--skip-git-repo-check]\n" ++
  "       listing-crawl auth-check [--tool NAME]\n" ++
  "       listing-crawl chrome-check [--host HOST] [--port PORT] [--url URL] [--timeout-secs N]\n"

end ListingCrawl.Command

open ListingCrawl in
def main (args : List String) : IO UInt32 := do
  match Command.read args with
  | .ok c => c.runOnDisk
  | .error .help | .error .version =>
    IO.print Command.usage
    return 0
  | .error _ =>
    IO.eprint Command.usage
    return 2
