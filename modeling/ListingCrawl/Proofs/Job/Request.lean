import ListingCrawl.Job.Basic
import ListingCrawl.Proofs.Except
import ListingCrawl.Proofs.Text.Lower

/-! The job of a request. What a request leaves open comes from the environment, and what comes from there is
written down in the job. A job is therefore a normal form: the request that says what the job says asks for
this job again, in the same environment, although each setting then takes another way. -/

namespace ListingCrawl

open Text (IsTrimmed NoCapitals)

/-! ### Optional texts -/

section Optional

variable {o : Option String} {s default : String}

theorem Text.isTrimmed_of_bind (h : o.bind trimmed? = some s) : IsTrimmed s := by
  obtain ⟨given, -, hgiven⟩ := Option.bind_eq_some_iff.mp h
  exact isTrimmed_of_trimmed? hgiven

theorem Text.bind_trimmed? (h : ∀ s ∈ o, IsTrimmed s) : o.bind trimmed? = o := by
  cases o with
  | none => rfl
  | some s => exact (h s rfl).trimmed?_eq

theorem Text.isTrimmed_getD (h : ∀ s ∈ o, IsTrimmed s) (hdefault : IsTrimmed default) :
    IsTrimmed (o.getD default) := by
  cases o with
  | none => exact hdefault
  | some s => exact h s rfl

/-- A text that is given, or else one from the environment. -/
theorem Text.isTrimmed_of_orElse {given : Option String} {env : Environment} {key : String}
    (h : (given.bind trimmed? <|> env.text? key) = some s) : IsTrimmed s := by
  simp only [Option.orElse_eq_orElse, Option.orElse_eq_or, Option.or_eq_some_iff] at h
  obtain hgiven | ⟨-, hset⟩ := h
  · exact isTrimmed_of_bind hgiven
  · exact isTrimmed_of_bind hset

end Optional

/-! ### What a request asks for -/

namespace Request

variable {env : Environment} {r : Request} {j : Job} {mode skill : Option String} {file : Option Path}
  {prompting : Prompting}

/-- The template file that the request names. -/
def namedFile? (r : Request) : Option Path :=
  (r.promptFile.bind fun p => Text.trimmed? p.text).map Path.mk

/-- The skill that the request names. -/
def namedSkill? (r : Request) : Option String :=
  r.skillName.bind Text.trimmed?

/-- The job is the one that the request asks for. -/
structure AsksFor (env : Environment) (r : Request) (j : Job) : Prop where
  url : Text.trimmed? r.url = some j.url
  outDir : Text.trimmed? r.outDir.text = some j.outDir.text
  tool : j.tool =
    Text.asciiLower ((r.tool.bind Text.trimmed? <|> env.text? "CRAWL_TOOL").getD Job.defaultTool)
  prompting : choosePrompting env (r.promptMode.bind Text.trimmed?) r.namedFile? r.namedSkill? =
    .ok j.prompting
  runId : j.runId = r.runId.bind Text.trimmed?
  checked : ∀ runId ∈ j.runId, checkRunId runId = .ok ()
  model : j.model = r.model.bind Text.trimmed?
  skipGitRepoCheck : j.skipGitRepoCheck = r.skipGitRepoCheck

theorem forM_checkRunId {runId : Option String} :
    runId.forM checkRunId = .ok () ↔ ∀ id ∈ runId, checkRunId id = .ok () := by
  cases runId with
  | none => simp [Option.forM, pure, Except.pure]
  | some id => simp [Option.forM]

theorem toJob_eq_ok : r.toJob env = .ok j ↔ r.AsksFor env j := by
  constructor
  · intro h
    unfold toJob at h
    split at h
    · next url hurl =>
      split at h
      · next outDir hout =>
        simp only [bind_eq_ok] at h
        obtain ⟨prompting, hprompting, ⟨⟩, hchecked, h⟩ := h
        cases h
        exact ⟨hurl, hout, rfl, hprompting, rfl, forM_checkRunId.mp hchecked, rfl, rfl⟩
      · cases h
    · cases h
  · rintro ⟨hurl, hout, htool, hprompting, hrunId, hchecked, hmodel, hskip⟩
    unfold toJob
    rw [hurl, hout]
    simp only [bind_eq_ok]
    refine ⟨j.prompting, hprompting, (), hrunId ▸ forM_checkRunId.mpr hchecked, ?_⟩
    rw [← htool, ← hrunId, ← hmodel, ← hskip]
    rfl

theorem url_of_toJob (h : r.toJob env = .ok j) : j.url = Text.trim r.url :=
  (Text.trimmed?_eq_some_iff.mp (toJob_eq_ok.mp h).url).2.symm

theorem outDir_of_toJob (h : r.toJob env = .ok j) : j.outDir.text ≠ "" :=
  (Text.isTrimmed_of_trimmed? (toJob_eq_ok.mp h).outDir).ne_empty

/-- In skill mode there is no template file, and in legacy mode no skill. -/
theorem choosePrompting_eq_ok : choosePrompting env mode file skill = .ok prompting ↔
    (choosesSkill env mode skill = .ok true ∧ file = none ∧
      prompting = .skill (skill <|> env.text? "CRAWL_SKILL_NAME")) ∨
    (choosesSkill env mode skill = .ok false ∧ skill = none ∧ prompting = .legacy file) := by
  unfold choosePrompting
  rw [bind_eq_ok]
  constructor
  · rintro ⟨chosen, hchosen, h⟩
    cases chosen with
    | true =>
      cases file with
      | none =>
        cases h
        exact .inl ⟨hchosen, rfl, rfl⟩
      | some file => cases h
    | false =>
      cases skill with
      | none =>
        cases h
        exact .inr ⟨hchosen, rfl, rfl⟩
      | some skill => cases h
  · rintro (⟨hchosen, rfl, rfl⟩ | ⟨hchosen, rfl, rfl⟩)
    · exact ⟨true, hchosen, rfl⟩
    · exact ⟨false, hchosen, rfl⟩

theorem isTrimmed_of_namedFile {file : Path} (h : r.namedFile? = some file) : IsTrimmed file.text := by
  obtain ⟨text, htext, rfl⟩ := Option.map_eq_some_iff.mp h
  obtain ⟨given, -, hgiven⟩ := Option.bind_eq_some_iff.mp htext
  exact Text.isTrimmed_of_trimmed? hgiven

/-- A mode that is named is chosen, whatever the environment says. -/
theorem choosesSkill_of_name {name : String} {chosen : Bool} (hname : Text.trimmed? name = some name)
    (hmode : isSkillMode name = .ok chosen) :
    choosesSkill env ((some name).bind Text.trimmed?) skill = .ok chosen := by
  rw [Option.bind_some, hname]
  exact hmode

end Request

/-! ### Jobs as normal forms -/

namespace Job

variable {env : Environment} {j : Job}

/-- The texts of a job. -/
def texts (j : Job) : List String :=
  [j.url, j.outDir.text, j.tool] ++ (j.promptFile.map Path.text).toList ++ j.skillName.toList ++
    j.runId.toList ++ j.model.toList

/-- Nothing is left of the job to be filled in or to be written in another way. -/
structure IsNormal (env : Environment) (j : Job) : Prop where
  texts : ∀ s ∈ j.texts, IsTrimmed s
  tool : NoCapitals j.tool
  runId : ∀ runId ∈ j.runId, Request.checkRunId runId = .ok ()
  skill : j.prompting = .skill none → env.text? "CRAWL_SKILL_NAME" = none

theorem forall_mem_texts {P : String → Prop} : (∀ s ∈ j.texts, P s) ↔
    P j.url ∧ P j.outDir.text ∧ P j.tool ∧ (∀ file ∈ j.promptFile, P file.text) ∧
      (∀ skill ∈ j.skillName, P skill) ∧ (∀ runId ∈ j.runId, P runId) ∧ ∀ model ∈ j.model, P model := by
  simp only [texts, List.forall_mem_append, List.forall_mem_cons, Option.mem_toList, Option.mem_def,
    Option.map_eq_some_iff, and_assoc]
  simp

/-- What the prompting of a job names is trimmed, and a skill is missing only where none is set. -/
theorem normal_of_choosePrompting {r : Request} {mode : Option String}
    (h : Request.choosePrompting env mode r.namedFile? r.namedSkill? = .ok j.prompting) :
    (∀ file ∈ j.promptFile, IsTrimmed file.text) ∧ (∀ skill ∈ j.skillName, IsTrimmed skill) ∧
      (j.prompting = .skill none → env.text? "CRAWL_SKILL_NAME" = none) := by
  obtain ⟨-, -, hmode⟩ | ⟨-, -, hmode⟩ := Request.choosePrompting_eq_ok.mp h
  · simp only [promptFile, skillName, hmode, Prompting.skill.injEq]
    refine ⟨nofun, fun skill hskill => Text.isTrimmed_of_orElse hskill, fun hnone => ?_⟩
    simp only [Option.orElse_eq_orElse, Option.orElse_eq_or, Option.or_eq_none_iff] at hnone
    exact hnone.2
  · simp only [promptFile, skillName, hmode]
    exact ⟨fun file => Request.isTrimmed_of_namedFile, nofun, nofun⟩

theorem isNormal_of_toJob {r : Request} (h : r.toJob env = .ok j) : j.IsNormal env := by
  have hasked := Request.toJob_eq_ok.mp h
  have hdefault : IsTrimmed defaultTool :=
    Text.isTrimmed_of_trimmed? (by decide : Text.trimmed? defaultTool = some defaultTool)
  have htool : IsTrimmed ((r.tool.bind Text.trimmed? <|> env.text? "CRAWL_TOOL").getD defaultTool) :=
    Text.isTrimmed_getD (fun s hs => Text.isTrimmed_of_orElse hs) hdefault
  obtain ⟨hfile, hskill, hunset⟩ := normal_of_choosePrompting hasked.prompting
  refine ⟨forall_mem_texts.mpr ⟨Text.isTrimmed_of_trimmed? hasked.url,
    Text.isTrimmed_of_trimmed? hasked.outDir, hasked.tool ▸ htool.asciiLower, hfile, hskill, ?_, ?_⟩,
    hasked.tool ▸ Text.noCapitals_asciiLower _, hasked.checked, hunset⟩
  · exact fun runId hrunId => Text.isTrimmed_of_bind (hasked.runId ▸ hrunId)
  · exact fun model hmodel => Text.isTrimmed_of_bind (hasked.model ▸ hmodel)

/-- The normal jobs are those whose requests ask for themselves. -/
theorem toJob_toRequest_iff : j.toRequest.toJob env = .ok j ↔ j.IsNormal env := by
  refine ⟨isNormal_of_toJob, fun h => ?_⟩
  obtain ⟨hurl, hout, htool, hfile, hskill, hrunId, hmodel⟩ := forall_mem_texts.mp h.texts
  refine Request.toJob_eq_ok.mpr ⟨hurl.trimmed?_eq, hout.trimmed?_eq, ?_, ?_,
    (Text.bind_trimmed? hrunId).symm, h.runId, (Text.bind_trimmed? hmodel).symm, rfl⟩
  · change j.tool = Text.asciiLower ((Text.trimmed? j.tool <|> env.text? "CRAWL_TOOL").getD defaultTool)
    rw [htool.trimmed?_eq]
    exact (Text.asciiLower_eq_self h.tool).symm
  · have hnamed : j.toRequest.namedSkill? = j.skillName := Text.bind_trimmed? hskill
    have hfile' : j.toRequest.namedFile? = j.promptFile := by
      change (j.promptFile.bind fun p => Text.trimmed? p.text).map Path.mk = _
      cases hpath : j.promptFile with
      | none => rfl
      | some file => rw [Option.bind_some, (hfile file hpath).trimmed?_eq, Option.map_some]
    rw [hnamed, hfile', Request.choosePrompting_eq_ok]
    cases hmode : j.prompting with
    | legacy file =>
      right
      simp only [toRequest, promptMode, skillName, promptFile, hmode, and_true]
      exact Request.choosesSkill_of_name (by decide) (by decide +kernel)
    | skill name =>
      left
      simp only [toRequest, promptMode, skillName, promptFile, hmode, true_and]
      refine ⟨Request.choosesSkill_of_name (by decide) (by decide +kernel), ?_⟩
      cases name with
      | none => rw [h.skill hmode]; rfl
      | some name => rfl

end Job

namespace Request

/-- The job of a request has a skill or a template file only in the mode that allows it, and the request did
not name the other one. Its texts are trimmed and its tool has no capital letter. Written down as a request, it
asks for the same job again. -/
theorem toJob_settled {env : Environment} {r : Request} {j : Job} (h : r.toJob env = .ok j) :
    (j.promptMode = "legacy" ∧ j.skillName = none ∧ r.namedSkill? = none ∨
      j.promptMode = "skill" ∧ j.promptFile = none ∧ r.namedFile? = none) ∧
    (∀ s ∈ j.texts, IsTrimmed s) ∧ NoCapitals j.tool ∧ j.toRequest.toJob env = .ok j := by
  have hnormal := Job.isNormal_of_toJob h
  refine ⟨?_, hnormal.texts, hnormal.tool, Job.toJob_toRequest_iff.mpr hnormal⟩
  obtain ⟨-, hfile, hmode⟩ | ⟨-, hskill, hmode⟩ := choosePrompting_eq_ok.mp (toJob_eq_ok.mp h).prompting
  · right
    simp [Job.promptMode, Job.promptFile, hmode, hfile]
  · left
    simp [Job.promptMode, Job.skillName, hmode, hskill]

/-- An environment that fills in the tool, the mode and the skill. -/
def skillEnvironment : Environment
  | "CRAWL_TOOL" => some " Gemini\t"
  | "CRAWL_PROMPT_MODE" => some "SKILL "
  | "CRAWL_SKILL_NAME" => some " page-snapshot"
  | _ => none

theorem toJob_settled_environment :
    let r := { ofUrl " app://shopee.tw/1" ⟨"out/ "⟩ with promptFile := some ⟨" "⟩, runId := some "r.1\n" }
    let j : Job := { url := "app://shopee.tw/1", outDir := ⟨"out/"⟩, tool := "gemini", model := none
                     prompting := .skill (some "page-snapshot"), runId := some "r.1", skipGitRepoCheck := false }
    r.toJob skillEnvironment = .ok j ∧ j.toRequest.toJob skillEnvironment = .ok j := by
  intro r j
  have hjob : r.toJob skillEnvironment = .ok j := by decide +kernel
  exact ⟨hjob, (toJob_settled hjob).2.2.2⟩

end Request

end ListingCrawl
