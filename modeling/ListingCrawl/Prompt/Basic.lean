import ListingCrawl.Files.Tree
import ListingCrawl.Prompt.Schema
import ListingCrawl.Skill
import ListingCrawl.Text.Basic

/-! What an agent is told: a template with the page's address filled in, the name of a skill, and the
two prompts that ask again after an answer that cannot be used. -/

namespace ListingCrawl.Prompt

/-! ### Templates -/

/-- Why a template cannot be used. -/
inductive TemplateError where
  | unreadable (file : Path) (error : FileError)
  | empty (file : Path)
  deriving DecidableEq, Repr

def TemplateError.message : TemplateError → String
  | unreadable file error => "read prompt template " ++ file.text ++ ": " ++ error.message
  | empty file => "prompt template " ++ file.text ++ " is empty"

/-- What stands in a template for the page's address. -/
def urlMark : String := "\x7b\x7bURL\x7d\x7d"

/-- Reads a template and fills in the address. -/
def ofTemplate (files : FileTree) (file : Path) (url : String) : Except TemplateError String :=
  match files.readText file with
  | .error e => .error (.unreadable file e)
  | .ok template =>
    if Text.isBlankText template then .error (.empty file)
    else .ok (Text.replace urlMark url template)

/-! ### Skills -/

/-- Names a skill and the page. The agent is held to the run's id and directory, if there is a run. -/
def ofSkill (skill : Skill) (url : String) (run : Option (String × Path)) : String :=
  "Use the \"" ++ skill.name ++ "\" skill as the primary crawling guide. Target URL: " ++ url ++
    match run with
    | none => ""
    | some (runId, dir) =>
      "\nRun ID: " ++ runId ++ "\nArtifact dir: " ++ dir.text ++
        "\nUse the provided Run ID exactly. Do not generate a new run_id.\n"

/-! ### Asking again -/

/-- The same prompt with limits on the size of the answer. -/
def withOutputLimits (prompt : String) : String :=
  prompt ++ "\n\nOutput limits (mandatory):\n" ++
    "- Return exactly one JSON object and nothing else.\n" ++
    "- images: at most 20 entries.\n" ++
    "- variations: at most 20 entries; each variation at most 5 images.\n" ++
    "- description: at most 1500 characters.\n" ++
    "- Use an explicit empty array ([]) instead of omitting images or variations.\n"

/-- Asks for the previous answer once more as one object that keeps the contract. -/
def repair (url problem previous : String) : String :=
  "Your previous answer for " ++ url ++ " could not be used: " ++ problem ++ ".\n\n" ++
    "Re-emit the result as exactly ONE JSON object that satisfies this schema:\n" ++
    schema ++ "\n\nRules:\n" ++
    "- Output JSON only. No markdown fences, no prose before or after.\n" ++
    "- Do not call any tools and do not browse again; use only the previous output below.\n" ++
    "- captured_at must be an RFC3339 UTC timestamp.\n" ++
    "- price must be a number or a plain numeric string such as \"123.45\".\n" ++
    "- If the previous output has no usable data, return status \"error\" with an error message.\n\n" ++
    "Previous output:\n<<<\n" ++ previous ++ "\n>>>\n"

end ListingCrawl.Prompt
