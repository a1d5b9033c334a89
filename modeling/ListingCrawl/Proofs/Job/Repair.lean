import ListingCrawl.Job.Repair
import ListingCrawl.Proofs.Agent.Exchange

/-! The course of asking again. A first run may be followed by one with limits on the answer's size and
by one that asks for a repair; `Runs.Course` says which of these are made, with which prompts, and how
the verdict on the last answer becomes the outcome. -/

namespace ListingCrawl

namespace Prompt

theorem suffix_of_append (s t : String) : t.toList <:+ (s ++ t).toList := by
  rw [String.toList_append]
  exact List.suffix_append _ _

theorem suffix_withOutputLimits (prompt : String) :
    ['.', '\n'] <:+ (withOutputLimits prompt).toList := by
  have h : ['.', '\n'] <:+
      "- Use an explicit empty array ([]) instead of omitting images or variations.\n".toList := by
    decide
  exact h.trans (suffix_of_append _ _)

theorem suffix_repair (url problem previous : String) :
    ['>', '\n'] <:+ (repair url problem previous).toList := by
  have h : ['>', '\n'] <:+ "\n>>>\n".toList := by decide
  exact h.trans (suffix_of_append _ _)

/-- The two prompts that ask again end differently. -/
theorem repair_ne_withOutputLimits (url problem previous prompt : String) :
    repair url problem previous ≠ withOutputLimits prompt := by
  intro h
  have hr := suffix_repair url problem previous
  rw [h] at hr
  have hs := List.suffix_of_suffix_length_le hr (suffix_withOutputLimits prompt) (by decide)
  revert hs
  decide

theorem withOutputLimits_ne_self (prompt : String) : prompt ≠ withOutputLimits prompt := by
  intro h
  have hl := congrArg String.length h
  simp only [withOutputLimits, String.length_append] at hl
  have hp : 0 < "- images: at most 20 entries.\n".length := by decide
  omega

end Prompt

namespace Repair

variable {α β : Type}

/-! ### Verdicts -/

/-- What a run comes to: a failure, or an answer that is accepted or rejected. -/
inductive Verdict (β : Type) where
  | failed (error : AgentError)
  | accepted (value : β)
  | rejected (raw : String) (why : Rejection)

def Verdict.IsRejected : Verdict β → Prop
  | .rejected _ _ => True
  | _ => False

theorem Verdict.isRejected_iff {v : Verdict β} : v.IsRejected ↔ ∃ raw why, v = .rejected raw why := by
  cases v <;> simp [IsRejected]

/-- The verdict on an exchange. -/
def verdict (accept : Accept β) (e : Exchange) : Verdict β :=
  match e.answer with
  | .error error => .failed error
  | .ok raw =>
    match accept e.time raw with
    | .ok value => .accepted value
    | .error why => .rejected raw why

theorem verdict_eq_accepted {accept : Accept β} {e : Exchange} {value : β} :
    verdict accept e = .accepted value ↔ ∃ raw, e.answer = .ok raw ∧ accept e.time raw = .ok value := by
  unfold verdict
  cases e.answer with
  | error error => simp
  | ok raw => cases h : accept e.time raw <;> simp [h]

/-- The outcome of a number of runs by the verdict on the last. The error of a failed run is told
whole, perhaps in a wider context. -/
def Concludes (tool : String) (runs : Nat) (outcome : Except CrawlError (Repaired β)) :
    Verdict β → Prop
  | .failed error => ∃ context, outcome = .error (.execution tool ⟨context ++ error.chain⟩)
  | .accepted value => outcome = .ok ⟨value, runs - 1⟩
  | .rejected _ (.contract violations) =>
    ∃ first, outcome = .error (.contract violations (some first))
  | .rejected _ (.extraction issue) =>
    ∃ first, outcome = .error (.extraction (.unrepaired tool first issue))

/-- Only an accepted answer leads to a result. -/
theorem Concludes.eq_accepted {tool : String} {runs : Nat} {repaired : Repaired β} {v : Verdict β}
    (h : Concludes tool runs (.ok repaired) v) :
    v = .accepted repaired.value ∧ repaired.attempts = runs - 1 := by
  cases v with
  | failed error =>
    obtain ⟨context, h⟩ := h
    cases h
  | accepted value =>
    cases h
    exact ⟨rfl, rfl⟩
  | rejected raw why =>
    cases why with
    | extraction issue =>
      obtain ⟨first, h⟩ := h
      cases h
    | contract violations =>
      obtain ⟨first, h⟩ := h
      cases h

/-! ### Runs -/

/-- The runs for one invocation: the first, one with limits and one for a repair. -/
structure Runs where
  first : Exchange
  limited : Option Exchange
  repair : Option Exchange

namespace Runs

/-- The runs before a repair. -/
def early (r : Runs) : List Exchange :=
  r.first :: r.limited.toList

def all (r : Runs) : List Exchange :=
  r.early ++ r.repair.toList

/-- The run whose answer a repair starts from. -/
def latest (r : Runs) : Exchange :=
  r.limited.getD r.first

def last (r : Runs) : Exchange :=
  r.repair.getD r.latest

theorem length_all_le (r : Runs) : r.all.length ≤ 3 := by
  have hl : r.limited.toList.length ≤ 1 := by cases r.limited <;> simp
  have hr : r.repair.toList.length ≤ 1 := by cases r.repair <;> simp
  simp only [all, early, List.length_append, List.length_cons]
  omega

theorem all_eq (r : Runs) : r.all = r.all.dropLast ++ [r.last] := by
  obtain ⟨first, limited, repair⟩ := r
  cases limited <;> cases repair <;> rfl

theorem last_mem (r : Runs) : r.last ∈ r.all := by
  rw [r.all_eq]
  exact List.mem_append_right _ List.mem_cons_self

/-- What the runs for an invocation look like, and what they lead to. -/
structure Course (a : Adapter α) (i : Invocation) (accept : Accept β) (r : Runs)
    (outcome : Except CrawlError (Repaired β)) : Prop where
  least : 1 ≤ r.all.length
  most : r.all.length ≤ 3
  most_unlimited : a.supportsOutputLimits = false → r.all.length ≤ 2
  request : ∀ e ∈ r.all, e.invocation.url = i.url ∧ e.invocation.model = i.model ∧
    e.invocation.skipGitRepoCheck = i.skipGitRepoCheck
  first_prompt : r.first.invocation.prompt = i.prompt
  limited_prompt : ∀ e ∈ r.limited, e.invocation.prompt = Prompt.withOutputLimits i.prompt
  limited_iff : (∃ e ∈ r.all, e.invocation.prompt = Prompt.withOutputLimits i.prompt) ↔
    ∃ raw, verdict accept r.first = .rejected raw (.extraction .invalidOrTruncated) ∧
      a.supportsOutputLimits = true ∧ Answer.looksTruncated raw = true
  repair_prompt : ∀ e ∈ r.repair, ∃ raw why, verdict accept r.latest = .rejected raw why ∧
    e.invocation.prompt = Prompt.repair i.url why.message raw
  repair_iff : r.repair.isSome ↔ ∀ e ∈ r.early, (verdict accept e).IsRejected
  stops : ∀ e ∈ r.all.dropLast, (verdict accept e).IsRejected
  concludes : Concludes a.name r.all.length outcome (verdict accept r.last)

end Runs

/-! ### One stage after the other -/

/-- The outcome of a later run, where `first` is why the first answer was rejected. -/
def conclude (tool : String) (first : Rejection) (attempts : Nat) :
    Verdict β → Except CrawlError (Repaired β)
  | .failed error => .error (retryError tool first error)
  | .accepted value => .ok ⟨value, attempts⟩
  | .rejected _ why => .error (finalError tool first why)

theorem concludes_conclude (tool : String) (first : Rejection) (attempts : Nat)
    (v : Verdict β) : Concludes tool (attempts + 1) (conclude tool first attempts v) v := by
  cases v with
  | failed error => exact ⟨["retry after: " ++ first.message], rfl⟩
  | accepted value => rfl
  | rejected raw why =>
    cases why with
    | extraction issue => exact ⟨first, rfl⟩
    | contract violations => exact ⟨first, rfl⟩

theorem lastRun_asked (a : Adapter α) (i : Invocation) (accept : Accept β)
    (first last : Rejection) (raw : String) (attempts : Nat) (w : World α) :
    ∃ e after, Asked a w [e] after ∧
      e.invocation = withPrompt i (Prompt.repair i.url last.message raw) ∧
      lastRun a i accept first last raw attempts w =
        (conclude a.name first (attempts + 1) (verdict accept e), after) := by
  rcases h : w.ask a (withPrompt i (Prompt.repair i.url last.message raw)) with ⟨answer, after⟩
  refine ⟨_, after, .one h, rfl, ?_⟩
  rw [lastRun, h]
  cases answer with
  | error e => rfl
  | ok text => cases ha : accept after.timestamp text <;> simp [verdict, conclude, ha]

theorem limitedRun_asked (a : Adapter α) (i : Invocation) (accept : Accept β) (first : Rejection)
    (w : World α) :
    ∃ e after, Asked a w [e] after ∧
      e.invocation = withPrompt i (Prompt.withOutputLimits i.prompt) ∧
      (∀ raw last, verdict accept e = .rejected raw last →
        limitedRun a i accept first w = lastRun a i accept first last raw 1 after) ∧
      (¬ (verdict accept e).IsRejected →
        limitedRun a i accept first w = (conclude a.name first 1 (verdict accept e), after)) := by
  rcases h : w.ask a (withPrompt i (Prompt.withOutputLimits i.prompt)) with ⟨answer, after⟩
  refine ⟨_, after, .one h, rfl, ?_⟩
  rw [limitedRun, h]
  cases answer with
  | error e => simp [verdict, conclude]
  | ok text =>
    cases ha : accept after.timestamp text <;>
      simp +contextual [verdict, conclude, ha, Verdict.IsRejected]

theorem run_asked (a : Adapter α) (i : Invocation) (accept : Accept β) (w : World α) :
    ∃ e after, Asked a w [e] after ∧ e.invocation = i ∧
      run a i accept w = match verdict accept e with
        | .failed error => (.error (.execution a.name error), after)
        | .accepted value => (.ok ⟨value, 0⟩, after)
        | .rejected raw first =>
          if wantsLimits a first raw then limitedRun a i accept first after
          else lastRun a i accept first first raw 0 after := by
  rcases h : w.ask a i with ⟨answer, after⟩
  refine ⟨_, after, .one h, rfl, ?_⟩
  rw [run, h]
  cases answer with
  | error e => rfl
  | ok text => cases ha : accept after.timestamp text <;> simp [verdict, ha]

/-! ### The course of the runs -/

/-- Does the answer call for a run with limits? -/
def Verdict.WantsLimits (a : Adapter α) : Verdict β → Prop
  | .rejected raw why => wantsLimits a why raw = true
  | _ => False

theorem Verdict.wantsLimits_iff {a : Adapter α} (v : Verdict β) : v.WantsLimits a ↔
    ∃ raw, v = .rejected raw (.extraction .invalidOrTruncated) ∧ a.supportsOutputLimits = true ∧
      Answer.looksTruncated raw = true := by
  cases v with
  | failed error => simp [WantsLimits]
  | accepted value => simp [WantsLimits]
  | rejected raw why =>
    constructor
    · intro h
      simp only [WantsLimits, wantsLimits, decide_eq_true_eq] at h
      obtain ⟨rfl, hs, ht⟩ := h
      exact ⟨raw, rfl, hs, ht⟩
    · rintro ⟨_, h, hs, ht⟩
      cases h
      simp [WantsLimits, wantsLimits, hs, ht]

/-- How each of the runs comes about from the one before. -/
structure Stages (a : Adapter α) (i : Invocation) (accept : Accept β) (r : Runs) : Prop where
  first : r.first.invocation = i
  limited : ∀ e ∈ r.limited, e.invocation = withPrompt i (Prompt.withOutputLimits i.prompt)
  limited_iff : r.limited.isSome ↔ (verdict accept r.first).WantsLimits a
  repair : ∀ e ∈ r.repair, ∃ raw why, verdict accept r.latest = .rejected raw why ∧
    e.invocation = withPrompt i (Prompt.repair i.url why.message raw)
  repair_iff : r.repair.isSome ↔ (verdict accept r.latest).IsRejected

namespace Stages

variable {a : Adapter α} {i : Invocation} {accept : Accept β} {r : Runs}

theorem withPrompt_eq (h : Stages a i accept r) :
    ∀ e ∈ r.all, e.invocation = withPrompt i e.invocation.prompt := by
  intro e he
  simp only [Runs.all, Runs.early, List.cons_append, List.mem_cons, List.mem_append,
    Option.mem_toList] at he
  obtain rfl | he | he := he
  · rw [h.first]
    rfl
  · rw [h.limited e he]
    rfl
  · obtain ⟨raw, why, -, hi⟩ := h.repair e he
    rw [hi]
    rfl

/-- Only the second run asks for limits. -/
theorem limits_iff (h : Stages a i accept r) :
    (∃ e ∈ r.all, e.invocation.prompt = Prompt.withOutputLimits i.prompt) ↔
      r.limited.isSome := by
  constructor
  · rintro ⟨e, he, hp⟩
    simp only [Runs.all, Runs.early, List.cons_append, List.mem_cons, List.mem_append,
      Option.mem_toList] at he
    obtain rfl | he | he := he
    · rw [h.first] at hp
      exact absurd hp (Prompt.withOutputLimits_ne_self i.prompt)
    · exact Option.isSome_of_mem he
    · obtain ⟨raw, why, -, hi⟩ := h.repair e he
      rw [hi] at hp
      exact absurd hp (Prompt.repair_ne_withOutputLimits _ _ _ _)
  · intro hl
    obtain ⟨e, he⟩ := Option.isSome_iff_exists.mp hl
    refine ⟨e, by simp [Runs.all, Runs.early, he], ?_⟩
    rw [h.limited e he]
    rfl

/-- A run with limits follows a rejection. -/
theorem first_rejected (h : Stages a i accept r) (hl : r.limited.isSome) :
    (verdict accept r.first).IsRejected := by
  rw [h.limited_iff, Verdict.wantsLimits_iff] at hl
  obtain ⟨raw, hv, -⟩ := hl
  rw [hv]
  trivial

theorem early_rejected_iff (h : Stages a i accept r) :
    (∀ e ∈ r.early, (verdict accept e).IsRejected) ↔ (verdict accept r.latest).IsRejected := by
  cases hl : r.limited with
  | none => simp [Runs.early, Runs.latest, hl]
  | some e =>
    have hf := h.first_rejected (by simp [hl])
    simp [Runs.early, Runs.latest, hl, hf]

theorem dropLast_rejected (h : Stages a i accept r) :
    ∀ e ∈ r.all.dropLast, (verdict accept e).IsRejected := by
  cases hr : r.repair with
  | some e =>
    have hd : r.all.dropLast = r.early := by simp [Runs.all, hr]
    rw [hd, h.early_rejected_iff, ← h.repair_iff, hr]
    rfl
  | none =>
    cases hl : r.limited with
    | none => simp [Runs.all, Runs.early, hr, hl]
    | some e =>
      have hf := h.first_rejected (by simp [hl])
      simpa [Runs.all, Runs.early, hr, hl] using hf

/-- Only the last answer can be accepted. -/
theorem eq_last (h : Stages a i accept r) {e : Exchange} (he : e ∈ r.all)
    (hv : ¬ (verdict accept e).IsRejected) : e = r.last := by
  rw [r.all_eq, List.mem_append, List.mem_singleton] at he
  exact he.resolve_left fun hearly => hv (h.dropLast_rejected e hearly)

theorem course (h : Stages a i accept r) {outcome : Except CrawlError (Repaired β)}
    (hc : Concludes a.name r.all.length outcome (verdict accept r.last)) :
    r.Course a i accept outcome where
  least := by simp [Runs.all, Runs.early]
  most := r.length_all_le
  most_unlimited hs := by
    have hl : r.limited = none := by
      rw [← Option.not_isSome_iff_eq_none, h.limited_iff, Verdict.wantsLimits_iff, hs]
      rintro ⟨raw, -, hf, -⟩
      exact absurd hf (by decide)
    have hr : r.repair.toList.length ≤ 1 := by cases r.repair <;> simp
    simp only [Runs.all, Runs.early, hl, List.length_append, List.length_cons,
      Option.toList_none, List.length_nil]
    omega
  request e he := by
    rw [h.withPrompt_eq e he]
    exact ⟨rfl, rfl, rfl⟩
  first_prompt := by rw [h.first]
  limited_prompt e he := by
    rw [h.limited e he]
    rfl
  limited_iff := by
    rw [h.limits_iff, h.limited_iff, Verdict.wantsLimits_iff]
  repair_prompt e he := by
    obtain ⟨raw, why, hv, hi⟩ := h.repair e he
    refine ⟨raw, why, hv, ?_⟩
    rw [hi]
    rfl
  repair_iff := by rw [h.early_rejected_iff, h.repair_iff]
  stops := h.dropLast_rejected
  concludes := hc

end Stages

/-- A first run whose answer is not rejected. -/
theorem stages_first {a : Adapter α} {i : Invocation} {accept : Accept β} {e : Exchange}
    (hi : e.invocation = i) (hv : ¬ (verdict accept e).IsRejected) :
    Stages a i accept ⟨e, none, none⟩ where
  first := hi
  limited := by simp
  limited_iff := by
    cases h : verdict accept e with
    | failed error => simp [Verdict.WantsLimits]
    | accepted value => simp [Verdict.WantsLimits]
    | rejected raw why => simp [h, Verdict.IsRejected] at hv
  repair := by simp
  repair_iff := by simpa [Runs.latest] using hv

/-- A second run for a repair, where no limits are wanted. -/
theorem stages_repaired {a : Adapter α} {i : Invocation} {accept : Accept β} {e e' : Exchange}
    {raw : String} {first : Rejection} (hi : e.invocation = i)
    (hv : verdict accept e = .rejected raw first) (hw : wantsLimits a first raw = false)
    (hi' : e'.invocation = withPrompt i (Prompt.repair i.url first.message raw)) :
    Stages a i accept ⟨e, none, some e'⟩ where
  first := hi
  limited := by simp
  limited_iff := by simp [hv, Verdict.WantsLimits, hw]
  repair := by
    rintro _ ⟨⟩
    exact ⟨raw, first, hv, hi'⟩
  repair_iff := by simp [Runs.latest, hv, Verdict.IsRejected]

/-- A run with limits whose answer is not rejected. -/
theorem stages_limited {a : Adapter α} {i : Invocation} {accept : Accept β} {e e' : Exchange}
    {raw : String} {first : Rejection} (hi : e.invocation = i)
    (hv : verdict accept e = .rejected raw first) (hw : wantsLimits a first raw = true)
    (hi' : e'.invocation = withPrompt i (Prompt.withOutputLimits i.prompt))
    (hv' : ¬ (verdict accept e').IsRejected) : Stages a i accept ⟨e, some e', none⟩ where
  first := hi
  limited := by
    rintro _ ⟨⟩
    exact hi'
  limited_iff := by simp [hv, Verdict.WantsLimits, hw]
  repair := by simp
  repair_iff := by simpa [Runs.latest] using hv'

theorem stages_limited_repaired {a : Adapter α} {i : Invocation} {accept : Accept β}
    {e e' e'' : Exchange} {raw raw' : String} {first last : Rejection} (hi : e.invocation = i)
    (hv : verdict accept e = .rejected raw first) (hw : wantsLimits a first raw = true)
    (hi' : e'.invocation = withPrompt i (Prompt.withOutputLimits i.prompt))
    (hv' : verdict accept e' = .rejected raw' last)
    (hi'' : e''.invocation = withPrompt i (Prompt.repair i.url last.message raw')) :
    Stages a i accept ⟨e, some e', some e''⟩ where
  first := hi
  limited := by
    rintro _ ⟨⟩
    exact hi'
  limited_iff := by simp [hv, Verdict.WantsLimits, hw]
  repair := by
    rintro _ ⟨⟩
    exact ⟨raw', last, hv', hi''⟩
  repair_iff := by simp [Runs.latest, hv', Verdict.IsRejected]

/-- The runs follow from one another, and the verdict on the last is the outcome. -/
theorem run_stages (a : Adapter α) (i : Invocation) (accept : Accept β) (w : World α) :
    ∃ r outcome after, run a i accept w = (outcome, after) ∧ Asked a w r.all after ∧
      Stages a i accept r ∧ Concludes a.name r.all.length outcome (verdict accept r.last) := by
  obtain ⟨e, w₁, he, hi, hrun⟩ := run_asked a i accept w
  cases hv : verdict accept e with
  | failed error =>
    have hc : Concludes a.name 1 (.error (.execution a.name error) : Except _ (Repaired β))
        (verdict accept e) := by
      rw [hv]
      exact ⟨[], rfl⟩
    rw [hv] at hrun
    exact ⟨⟨e, none, none⟩, _, _, hrun, he, stages_first hi (by simp [hv, Verdict.IsRejected]), hc⟩
  | accepted value =>
    have hc : Concludes a.name 1 (.ok ⟨value, 0⟩) (verdict accept e) := by
      rw [hv]
      rfl
    rw [hv] at hrun
    exact ⟨⟨e, none, none⟩, _, _, hrun, he, stages_first hi (by simp [hv, Verdict.IsRejected]), hc⟩
  | rejected raw first =>
    cases hw : wantsLimits a first raw with
    | false =>
      obtain ⟨e', w₂, he', hi', hlast⟩ := lastRun_asked a i accept first first raw 0 w₁
      simp only [hv, hw, hlast] at hrun
      exact ⟨⟨e, none, some e'⟩, _, _, hrun, he.append he', stages_repaired hi hv hw hi',
        concludes_conclude a.name first 1 (verdict accept e')⟩
    | true =>
      obtain ⟨e', w₂, he', hi', hagain, hdone⟩ := limitedRun_asked a i accept first w₁
      simp only [hv, hw, if_true] at hrun
      by_cases hv' : (verdict accept e').IsRejected
      · obtain ⟨raw', last, hv'⟩ := Verdict.isRejected_iff.mp hv'
        obtain ⟨e'', w₃, he'', hi'', hlast⟩ := lastRun_asked a i accept first last raw' 1 w₂
        rw [hagain raw' last hv', hlast] at hrun
        exact ⟨⟨e, some e', some e''⟩, _, _, hrun, (he.append he').append he'',
          stages_limited_repaired hi hv hw hi' hv' hi'',
          concludes_conclude a.name first 2 (verdict accept e'')⟩
      · rw [hdone hv'] at hrun
        exact ⟨⟨e, some e', none⟩, _, _, hrun, he.append he', stages_limited hi hv hw hi' hv',
          concludes_conclude a.name first 1 (verdict accept e')⟩

/-- The runs for an invocation, one after the other, follow their course, and no others are made. -/
theorem run_course (a : Adapter α) (i : Invocation) (accept : Accept β) (w : World α) :
    ∃ r : Runs, Asked a w r.all (run a i accept w).2 ∧
      (run a i accept w).2.calls = w.calls ++ r.all.map (fun e => .run a.name e.invocation) ∧
      r.Course a i accept (run a i accept w).1 := by
  obtain ⟨r, outcome, after, hrun, hr, hs, hc⟩ := run_stages a i accept w
  rw [hrun]
  exact ⟨r, hr, hr.calls_eq, hs.course hc⟩

end Repair

end ListingCrawl
