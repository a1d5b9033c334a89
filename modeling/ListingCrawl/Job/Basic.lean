import ListingCrawl.Environment
import ListingCrawl.Files.Path
import ListingCrawl.Request
import ListingCrawl.Text.Quoted

/-! A job: a request whose texts are trimmed, whose gaps are filled from the environment and whose
parts have been found to fit together. -/

namespace ListingCrawl

/-- How the agent is told what to do: by a template for the page's marketplace, or by the name of a
skill. A template file and a skill's name exclude each other. -/
inductive Prompting where
  | legacy (file : Option Path)
  | skill (name : Option String)
  deriving DecidableEq, Repr

/-- Why a request is no job. -/
inductive RequestError where
  | noUrl | noOutDir
  | badPromptMode (found : String)
  | skillInLegacyMode (skill : String)
  | promptFileInSkillMode (file : Path)
  | runIdIsNoName (runId : String)
  | runIdCharacter (runId : String) (bad : Char)
  deriving DecidableEq, Repr

namespace RequestError

def message : RequestError → String
  | noUrl => "missing url"
  | noOutDir => "missing out_dir"
  | badPromptMode found =>
    "unsupported prompt mode: " ++ Text.quoted found ++ " (expected legacy or skill)"
  | skillInLegacyMode skill => "skill " ++ Text.quoted skill ++ " requires prompt mode skill"
  | promptFileInSkillMode file =>
    "prompt file " ++ file.text ++ " is only supported in legacy prompt mode"
  | runIdIsNoName runId => "invalid run_id: " ++ Text.quoted runId ++ " is not a directory name"
  | runIdCharacter runId bad =>
    "invalid run_id: " ++ Text.quoted runId ++ " contains unsupported character " ++
      Text.quotedSingle bad

end RequestError

structure Job where
  url : String
  outDir : Path
  tool : String
  prompting : Prompting
  runId : Option String
  model : Option String
  skipGitRepoCheck : Bool
  deriving DecidableEq, Repr

namespace Job

def defaultTool : String := "codex"

/-! ### Views -/

def promptFile (j : Job) : Option Path :=
  match j.prompting with
  | .legacy file => file
  | .skill _ => none

def skillName (j : Job) : Option String :=
  match j.prompting with
  | .legacy _ => none
  | .skill name => name

/-- The name of the prompt mode. -/
def promptMode (j : Job) : String :=
  match j.prompting with
  | .legacy _ => "legacy"
  | .skill _ => "skill"

/-- The directory of the job's run, if the request names the run. -/
def artifactDir? (j : Job) : Option Path :=
  j.runId.map (Files.artifactDir j.outDir)

/-- The request that a job writes down again. -/
def toRequest (j : Job) : Request where
  url := j.url
  outDir := j.outDir
  tool := some j.tool
  promptMode := some j.promptMode
  promptFile := j.promptFile
  skillName := j.skillName
  runId := j.runId
  model := j.model
  skipGitRepoCheck := j.skipGitRepoCheck

end Job

namespace Request

/-! ### Checking a request -/

def isRunIdChar (c : Char) : Bool :=
  c.isAlphanum || c == '-' || c == '_' || c == '.'

/-- A run id names a directory, so it has to be one ordinary part of a path. -/
def checkRunId (runId : String) : Except RequestError Unit :=
  if runId = "." ∨ runId = ".." then .error (.runIdIsNoName runId)
  else
    match runId.toList.find? fun c => !isRunIdChar c with
    | some bad => .error (.runIdCharacter runId bad)
    | none => .ok ()

/-- Does a prompt mode ask for a skill? -/
def isSkillMode (mode : String) : Except RequestError Bool :=
  let mode := Text.asciiLower (Text.trim mode)
  if mode = "legacy" then .ok false
  else if mode = "skill" then .ok true
  else .error (.badPromptMode mode)

/-- The prompt mode that is asked for decides; a named skill asks for skill mode. -/
def choosesSkill (env : Environment) (mode skill : Option String) : Except RequestError Bool :=
  match mode <|> env.text? "CRAWL_PROMPT_MODE" with
  | some mode => isSkillMode mode
  | none => .ok skill.isSome

def choosePrompting (env : Environment) (mode : Option String) (file : Option Path)
    (skill : Option String) : Except RequestError Prompting := do
  if ← choosesSkill env mode skill then
    match file with
    | some file => .error (.promptFileInSkillMode file)
    | none => .ok (.skill (skill <|> env.text? "CRAWL_SKILL_NAME"))
  else
    match skill with
    | some skill => .error (.skillInLegacyMode skill)
    | none => .ok (.legacy file)

/-- The job that a request asks for. -/
def toJob (env : Environment) (r : Request) : Except RequestError Job := do
  let some url := Text.trimmed? r.url | throw .noUrl
  let some outDir := Text.trimmed? r.outDir.text | throw .noOutDir
  let tool := Text.asciiLower <|
    (r.tool.bind Text.trimmed? <|> env.text? "CRAWL_TOOL").getD Job.defaultTool
  let prompting ← choosePrompting env (r.promptMode.bind Text.trimmed?)
    ((r.promptFile.bind fun p => Text.trimmed? p.text).map Path.mk) (r.skillName.bind Text.trimmed?)
  let runId := r.runId.bind Text.trimmed?
  runId.forM checkRunId
  return { url, outDir := ⟨outDir⟩, tool, prompting, runId
           model := r.model.bind Text.trimmed?, skipGitRepoCheck := r.skipGitRepoCheck }

end Request

end ListingCrawl
