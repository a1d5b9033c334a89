import Mathlib.Data.List.Nodup
import ListingCrawl.Proofs.Job.Calls

/-! Which agent a job runs. A registry that is accepted holds all agents it was made of and finds each by its
name. A job writes the name of its tool in small letters, so that a request chooses the agents whose names
have no capital letter of ASCII, and those only. -/

namespace ListingCrawl

open Text (IsTrimmed NoCapitals)

/-! ### Registries -/

namespace Registry

variable {α : Type} {reg before after : Registry α} {a : Adapter α} {as : List (Adapter α)}
  {name : String}

theorem add_eq_ok : before.add a = .ok after ↔ after.adapters = a :: before.adapters := by
  obtain ⟨adapters, hdistinct⟩ := after
  constructor
  · intro h
    unfold add at h
    split at h
    · cases h
    · cases h
      rfl
  · rintro rfl
    rw [List.map_cons, List.nodup_cons] at hdistinct
    exact dif_neg hdistinct.1

/-- A registry that holds the agents in the reverse order has distinct names, so no agent on the way to it is
refused. -/
theorem foldlM_add_eq_ok :
    as.foldlM add before = .ok reg ↔ reg.adapters = as.reverse ++ before.adapters := by
  induction as generalizing before with
  | nil =>
    obtain ⟨adapters, hdistinct⟩ := reg
    obtain ⟨adapters', hdistinct'⟩ := before
    simp only [List.foldlM_nil, pure, Except.pure, Except.ok.injEq, mk.injEq, List.reverse_nil,
      List.nil_append]
    exact eq_comm
  | cons a as ih =>
    rw [List.foldlM_cons, bind_eq_ok, List.reverse_cons, List.append_assoc, List.singleton_append]
    constructor
    · rintro ⟨between, hadd, hfold⟩
      rw [ih.mp hfold, add_eq_ok.mp hadd]
    · intro h
      have hdistinct := reg.distinct
      rw [h, List.map_append] at hdistinct
      exact ⟨⟨a :: before.adapters, hdistinct.of_append_right⟩, add_eq_ok.mpr rfl, ih.mpr h⟩

theorem ofList_eq_ok : ofList as = .ok reg ↔ reg.adapters = as.reverse := by
  rw [ofList, foldlM_add_eq_ok, empty, List.append_nil]

theorem get?_eq_some_iff : reg.get? name = some a ↔ a ∈ reg.adapters ∧ a.name = name := by
  have hfound {b : Adapter α} {n : String} (h : reg.adapters.find? (·.name == n) = some b) :
      b ∈ reg.adapters ∧ b.name = n :=
    ⟨List.mem_of_find?_eq_some h, by simpa using List.find?_some h⟩
  refine ⟨hfound, ?_⟩
  rintro ⟨ha, rfl⟩
  cases hget : reg.get? a.name with
  | none => exact absurd (beq_self_eq_true a.name) (List.find?_eq_none.mp hget a ha)
  | some b =>
    obtain ⟨hb, hname⟩ := hfound hget
    rw [List.inj_on_of_nodup_map reg.distinct hb ha hname]

theorem get?_ofList (h : ofList as = .ok reg) : reg.get? name = some a ↔ a ∈ as ∧ a.name = name := by
  rw [get?_eq_some_iff, ofList_eq_ok.mp h, List.mem_reverse]

end Registry

/-! ### The tool of a job -/

namespace Request

variable {env : Environment} {r : Request} {j : Job} {name : String}

/-- A tool that is named is asked for in small letters, whatever the environment says. -/
theorem tool_of_toJob (h : r.toJob env = .ok j) (htool : r.tool = some name) (hname : IsTrimmed name) :
    j.tool = Text.asciiLower name := by
  rw [(toJob_eq_ok.mp h).tool, htool, Option.bind_some, hname.trimmed?_eq]
  rfl

end Request

/-- Making a plan is not concerned with tools. -/
theorem Plan.ofJob_ne_tool (files : FileTree) (j : Job) (m : Marketplace) (found : String)
    (available : List String) : Plan.ofJob files j m ≠ .error (.tool found available) := by
  intro h
  unfold Plan.ofJob at h
  split at h
  · split at h <;> cases h
  · split at h <;> cases h

namespace Service

variable {α : Type} {s : Service α} {r : Request} {w : World α} {t : Ready α}

/-! ### Unsupported tools -/

theorem prepare_eq_tool {files : FileTree} {j : Job} {source : Option Marketplace} {found : String}
    {available : List String} :
    s.prepare files j = (source, .error (.tool found available)) ↔
      ∃ m, Marketplace.ofUrl j.url = .ok m ∧ s.registry.get? j.tool = none ∧
        source = some m ∧ found = j.tool ∧ available = s.registry.names := by
  rw [prepare]
  cases Marketplace.ofUrl j.url with
  | error e => simp
  | ok m =>
    cases hchosen : s.registry.get? j.tool with
    | none => simp [choose, hchosen, eq_comm]
    | some a =>
      have hplan := Plan.ofJob_ne_tool files j m found available
      cases hofJob : Plan.ofJob files j m with
      | error e =>
        rw [hofJob] at hplan
        simpa [choose, hchosen, hofJob] using fun _ => hplan
      | ok plan => simp [choose, hchosen, hofJob]

/-- Once the output directory is there, a job is at fault exactly if it cannot be prepared. -/
theorem Opens.error_input_iff {j : Job} {opened : World α} (h : s.Opens r w j opened) {cancelled : Bool}
    {e : InputError} : (s.run r cancelled w).1.error = some (.input e) ↔
      ∃ source, s.prepare opened.files j = (source, .error e) := by
  obtain ⟨t, hreaches, rfl⟩ | ⟨source, e', hrefused, hrun⟩ := h.reaches_or_refused
  · obtain ⟨-, rfl⟩ := Prod.mk.inj (hreaches.opened.symm.trans h.made)
    obtain ⟨runs, hconsults⟩ := hreaches.consults cancelled
    simp [hconsults.notInput e, hreaches.prepared]
  · have herror : (s.run r cancelled w).1.error = some (.input e') := by
      rw [hrun]
      exact (ends_finish _ _ _ _ _).error_eq rfl
    simp [herror, hrefused]

/-- A tool is unsupported exactly if the request is a job for a page of a marketplace and no agent has the
name that the job asks for. -/
theorem run_unsupported_iff {cancelled : Bool} {found : String} {available : List String} :
    (s.run r cancelled w).1.error = some (.input (.tool found available)) ↔
      ∃ j m opened, s.Opens r w j opened ∧ Marketplace.ofUrl j.url = .ok m ∧
        s.registry.get? j.tool = none ∧ found = j.tool ∧ available = s.registry.names := by
  constructor
  · intro h
    obtain ⟨j, opened, hopens⟩ : ∃ j opened, s.Opens r w j opened := by
      unfold run at h
      split at h
      · cases h
      · next j hjob =>
        unfold runJob at h
        split at h
        · next e after hmade =>
          obtain ⟨cause, rfl⟩ := openOutDir_eq_error hmade
          cases h
        · next opened hmade => exact ⟨j, opened, hjob, hmade⟩
    obtain ⟨source, hprepared⟩ := hopens.error_input_iff.mp h
    obtain ⟨m, hpage, hnone, -, hfound, havailable⟩ := prepare_eq_tool.mp hprepared
    exact ⟨j, m, opened, hopens, hpage, hnone, hfound, havailable⟩
  · rintro ⟨j, m, opened, hopens, hpage, hnone, hfound, havailable⟩
    refine hopens.error_input_iff.mpr ⟨some m, ?_⟩
    exact prepare_eq_tool.mpr ⟨m, hpage, hnone, rfl, hfound, havailable⟩

/-! ### Choosing an agent by its name -/

/-- Of a registry that was accepted, every agent can be chosen whose name is trimmed and has no capital letter
of ASCII. A request with this name never ends with an unsupported tool. If it is a job otherwise, then the job
is ready with this very agent, and checks it and runs it. -/
theorem run_chosen {as : List (Adapter α)} {reg : Registry α} (haccepted : Registry.ofList as = .ok reg)
    {a : Adapter α} (ha : a ∈ as) (hname : IsTrimmed a.name) (hsmall : NoCapitals a.name)
    {r : Request} (htool : r.tool = some a.name) (env : Environment) (cancelled : Bool) (w : World α) :
    let s : Service α := ⟨reg, env⟩
    (∀ found available, (s.run r cancelled w).1.error ≠ some (.input (.tool found available))) ∧
    ∀ j m plan opened, r.toJob env = .ok j → openOutDir j w = (.ok (), opened) →
      Marketplace.ofUrl j.url = .ok m → Plan.ofJob opened.files j m = .ok plan →
        j.tool = a.name ∧ s.Reaches r w ⟨j, m, plan, a, opened⟩ ∧
          ∃ runs, s.Consults r cancelled w ⟨j, m, plan, a, opened⟩ runs ∧ 1 ≤ runs.length := by
  intro s
  have hasked {j : Job} (hjob : r.toJob env = .ok j) : j.tool = a.name :=
    (Request.tool_of_toJob hjob htool hname).trans (Text.asciiLower_eq_self hsmall)
  have hget : reg.get? a.name = some a := (Registry.get?_ofList haccepted).mpr ⟨ha, rfl⟩
  refine ⟨fun found available herror => ?_, fun j m plan opened hjob hmade hpage hplan => ?_⟩
  · obtain ⟨j, m, opened, hopens, -, hnone, -⟩ := run_unsupported_iff.mp herror
    rw [hasked hopens.job] at hnone
    cases hnone.symm.trans hget
  · have hchosen : reg.get? j.tool = some a := by rw [hasked hjob, hget]
    have hreaches : s.Reaches r w ⟨j, m, plan, a, opened⟩ :=
      ⟨hjob, hmade, prepare_eq_ok.mpr ⟨hpage, hchosen, hplan⟩⟩
    obtain ⟨runs, hconsults⟩ := hreaches.consults cancelled
    refine ⟨hasked hjob, hreaches, runs, hconsults, ?_⟩
    by_cases hmode : plan.mode = .direct
    · exact (hconsults.direct hmode).1
    · exact (hconsults.once hmode).ge

/-- A request for a page that names its tool. -/
def toolRequest (tool : String) : Request :=
  { (skillJob none).toRequest with tool := some tool }

/-- An environment that names the tool and nothing else. -/
def toolEnvironment (tool : String) : Environment :=
  fun key => if key = "CRAWL_TOOL" then some tool else none

/-- The first of two agents, in an environment that names the other one. -/
theorem run_chosen_first :
    let as := [constant "claude", constant "gemini"]
    let w := answeringWorld ⟨[], []⟩ (.ok "")
    ∃ reg, Registry.ofList as = .ok reg ∧ IsTrimmed "claude" ∧ NoCapitals "claude" ∧
      let s : Service (Except AgentError String) := ⟨reg, toolEnvironment "gemini"⟩
      (∀ found available,
        (s.run (toolRequest "claude") false w).1.error ≠ some (.input (.tool found available))) ∧
      ∃ t runs, s.Reaches (toolRequest "claude") w t ∧ t.adapter = constant "claude" ∧
        s.Consults (toolRequest "claude") false w t runs ∧ 1 ≤ runs.length := by
  intro as w
  let reg : Registry (Except AgentError String) := ⟨as.reverse, by decide⟩
  have haccepted : Registry.ofList as = .ok reg := Registry.ofList_eq_ok.mpr rfl
  have hname : IsTrimmed "claude" :=
    Text.isTrimmed_of_trimmed? (by decide : Text.trimmed? "claude" = some "claude")
  have hsmall : NoCapitals "claude" := by decide +kernel
  let j : Job := { skillJob none with tool := "claude" }
  have hjob : (toolRequest "claude").toJob (toolEnvironment "gemini") = .ok j := by decide +kernel
  have hmade : (openOutDir j w).1 = .ok () := by decide +kernel
  have hpage : Marketplace.ofUrl j.url = .ok .shopee := by decide +kernel
  obtain ⟨plan, hplan⟩ : ∃ plan, Plan.ofJob (openOutDir j w).2.files j .shopee = .ok plan := ⟨_, rfl⟩
  obtain ⟨hsupported, hchosen⟩ := run_chosen haccepted (a := constant "claude") (by simp [as]) hname hsmall
    (r := toolRequest "claude") rfl (toolEnvironment "gemini") false w
  obtain ⟨-, hreaches, runs, hconsults, hruns⟩ :=
    hchosen j .shopee plan _ hjob (Prod.ext hmade rfl) hpage hplan
  exact ⟨reg, haccepted, hname, hsmall, hsupported, _, runs, hreaches, rfl, hconsults, hruns⟩

/-- An agent whose name has a capital letter: the registry takes it, the request is a job for a page that could
be planned, and yet the tool is unsupported and no agent is called. -/
theorem run_unsupported_capital :
    let s := single (constant "Claude")
    let w := answeringWorld ⟨[], []⟩ (.ok "\x7b\"status\":\"ok\"\x7d")
    Registry.ofList [constant "Claude"] = .ok s.registry ∧ IsTrimmed "Claude" ∧
      (∃ j plan opened, s.Opens (toolRequest "Claude") w j opened ∧
        Marketplace.ofUrl j.url = .ok .shopee ∧ Plan.ofJob opened.files j .shopee = .ok plan) ∧
      (s.run (toolRequest "Claude") false w).1.error = some (.input (.tool "claude" ["Claude"])) ∧
      (s.run (toolRequest "Claude") false w).2.calls = [] := by
  intro s w
  let j : Job := { skillJob none with tool := "claude" }
  have hjob : (toolRequest "Claude").toJob s.env = .ok j := by decide +kernel
  have hmade : (openOutDir j w).1 = .ok () := by decide +kernel
  have hpage : Marketplace.ofUrl j.url = .ok .shopee := by decide +kernel
  have hopens : s.Opens (toolRequest "Claude") w j (openOutDir j w).2 := ⟨hjob, Prod.ext hmade rfl⟩
  have hname : IsTrimmed "Claude" :=
    Text.isTrimmed_of_trimmed? (by decide : Text.trimmed? "Claude" = some "Claude")
  refine ⟨Registry.ofList_eq_ok.mpr rfl, hname, ⟨j, _, _, hopens, hpage, rfl⟩, ?_, ?_⟩
  · exact run_unsupported_iff.mpr ⟨j, .shopee, _, hopens, hpage, by decide +kernel, rfl, by decide +kernel⟩
  · decide +kernel

end Service

end ListingCrawl
