import ListingCrawl.Files.Path
import ListingCrawl.Json.Shape

/-! A crawl request as a caller writes it. Nothing in it is trimmed or checked yet. -/

namespace ListingCrawl

structure Request where
  url : String
  outDir : Path
  tool : Option String
  promptMode : Option String
  promptFile : Option Path
  skillName : Option String
  runId : Option String
  model : Option String
  skipGitRepoCheck : Bool
  deriving DecidableEq, Repr

namespace Request

open Json (Check Shape)

/-- A request that leaves all but the page and the output directory to defaults. -/
def ofUrl (url : String) (outDir : Path) : Request :=
  { url, outDir, tool := none, promptMode := none, promptFile := none, skillName := none
    runId := none, model := none, skipGitRepoCheck := false }

def shape : Shape where
  name := "CrawlRequest"
  fields := [
    ⟨"url", .text, true⟩,
    ⟨"out_dir", .path, true⟩,
    ⟨"tool", .optional .text, false⟩,
    ⟨"prompt_mode", .optional .text, false⟩,
    ⟨"prompt_file", .optional .path, false⟩,
    ⟨"skill_name", .optional .text, false⟩,
    ⟨"run_id", .optional .text, false⟩,
    ⟨"model", .optional .text, false⟩,
    ⟨"skip_git_repo_check", .flag, false⟩]

def ofFields (fs : Fields) : Request where
  url := (fs.text? "url").getD ""
  outDir := ⟨(fs.text? "out_dir").getD ""⟩
  tool := fs.text? "tool"
  promptMode := fs.text? "prompt_mode"
  promptFile := (fs.text? "prompt_file").map Path.mk
  skillName := fs.text? "skill_name"
  runId := fs.text? "run_id"
  model := fs.text? "model"
  skipGitRepoCheck := fs.get? "skip_git_repo_check" = some (.bool true)

/-- Reads a request from its JSON form. -/
def ofJson (v : Json) : Except Json.Mismatch Request :=
  (shape.read v).map ofFields

end Request

end ListingCrawl
