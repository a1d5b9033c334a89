import ListingCrawl.Proofs.Job.Report

/-! The facts on the record of a job. Each fact is a thing that happened to the job: the marketplace of its
page, the failed check of its agent, where its result is from, and so on. Whatever an agent answers or writes,
the record has each fact of the job under its key. Where the job has no such fact, the key is missing, unless
the agent gave something under it: what an agent gives under such a key stays in the record of a job that
succeeds. -/

namespace ListingCrawl

/-! ### Keys outside the contract -/

namespace Record

theorem get?_insert_of_mem_keys {key other : String} (hkey : key ∉ Listing.keys)
    (hother : other ∈ Listing.keys) (r : Record) (v : Json) : (r.insert other v).get? key = r.get? key :=
  get?_insert_of_ne (ne_of_mem_of_not_mem hother hkey).symm r v

theorem get?_failed {key : String} (hkey : key ∉ Listing.keys) (now url message : String) :
    (Record.failed now url message).get? key = none := by
  simp (disch := decide) only [failed, insertText, get?_insert_of_mem_keys hkey]
  rfl

end Record

/-- A snapshot gives values for keys of the contract alone. -/
theorem Artifact.SnapshotPointer.get?_record {p : SnapshotPointer} {files : FileTree} {now url : String}
    {r : Record} (h : p.record files now url = .ok r) {key : String} (hkey : key ∉ Listing.keys) :
    r.get? key = none := by
  have hheader : (p.header now url).get? key = none := by
    simp (disch := decide) only [header, Record.insertText, Record.get?_insert_of_mem_keys hkey]
    rfl
  have hlists : ∀ r, (withoutLists r).get? key = r.get? key := by
    intro r
    simp (disch := decide) only [withoutLists, Record.get?_insert_of_mem_keys hkey]
  unfold record at h
  dsimp only at h
  split at h
  · cases h
    rw [hlists, Record.insertText, Record.get?_insert_of_mem_keys hkey (by decide), hheader]
  · cases h
    rw [hlists, Record.insertText, Record.get?_insert_of_mem_keys hkey (by decide), hheader]
  · obtain ⟨core, -, rfl⟩ := map_eq_ok.mp h
    simpa (disch := decide) only [withFiles, Record.insertText,
      Record.get?_insert_of_mem_keys hkey] using hheader
  · cases h

/-- Under the key of a fact a record has what the agent gave. -/
theorem Ready.Takes.get?_eq {α : Type} {t : Ready α} {cancelled : Bool} {value : Record}
    {facts : Provenance} {given : Fields} (h : t.Takes cancelled value facts given) {key : String}
    (hkey : key ∈ Provenance.keys) : value.get? key = Fields.get? given key := by
  have hcanonical : ∀ key ∈ Provenance.keys, key ∉ Record.canonicalKeys := by decide
  by_cases hsource : facts.resultSource = some .artifactSnapshot
  · cases h with
    | snapshot _ _ _ hfiles =>
      rw [Record.get?_normalize (hcanonical key hkey)]
      exact Artifact.SnapshotPointer.get?_record hfiles (Provenance.not_mem_contract key hkey)
    | _ => cases hsource
  · obtain ⟨now, rfl⟩ := h.eq_normalize hsource
    exact Record.get?_normalize (hcanonical key hkey) now t.job.url ⟨given⟩

namespace Service

variable {α : Type} {s : Service α} {r : Request} {w : World α} {t : Ready α} {cancelled : Bool}

/-- Completing the record of a failure writes texts under keys of the contract, or makes the record anew. -/
theorem completed_induction {P : Record → Prop} {now url : String} {e : CrawlError} {r : Record} (h : P r)
    (hinsert : ∀ r key text, key ∈ Listing.keys → P r → P (r.insertText key text))
    (hfailed : P (.failed now url e.message)) : P (completed now url e r) := by
  have hite : ∀ {c : Prop} [Decidable c] {r r' : Record}, P r → P r' → P (if c then r else r') := by
    intro c _ r r' hr hr'
    split
    · exact hr
    · exact hr'
  -- the texts in the order in which they are written, each on what the ones before have made
  have hstatus := hinsert r "status" Status.error.name (by decide) h
  have hurl := fun c [Decidable c] =>
    hite (c := c) (hinsert _ "url" url (by decide) hstatus) hstatus
  have herror := fun c d [Decidable c] [Decidable d] =>
    hite (c := d) (hinsert _ "error" e.message (by decide) (hurl c)) (hurl c)
  unfold completed
  dsimp only
  split
  · exact hite (herror _ _) (hinsert _ "captured_at" now (by decide) (herror _ _))
  · exact hfailed

theorem get?_completed {key : String} (hkey : key ∉ Listing.keys) (now url : String) (e : CrawlError)
    (r : Record) : (completed now url e r).get? key = none ∨
      (completed now url e r).get? key = r.get? key := by
  apply completed_induction (P := fun r' => r'.get? key = none ∨ r'.get? key = r.get? key) (.inr rfl)
  · intro r' other text hother hr'
    rwa [Record.insertText, Record.get?_insert_of_mem_keys hkey hother]
  · exact .inl (Record.get?_failed hkey now url _)

end Service

/-! ### What happened to a job -/

namespace Ready

variable {α : Type} {t : Ready α} {cancelled : Bool}

/-- Runs the agent until it gives an answer that is accepted. -/
def repaired (t : Ready α) (cancelled : Bool) : Except CrawlError (Repaired Record) × World α :=
  Repair.run t.adapter (t.invocation cancelled) (Service.acceptFor t.job.url) (t.checked cancelled).2

/-- The answer of the agent names the files of a snapshot. -/
def Names (t : Ready α) (cancelled : Bool) (runId : Option String) (p : Artifact.SnapshotPointer) : Prop :=
  ∃ raw, (t.asked cancelled).1 = .ok raw ∧
    Artifact.SnapshotPointer.ofAnswer (t.asked cancelled).2.files t.job.outDir runId raw = .ok p

/-- Where the result of the job is from. A record in files that cannot be read is no result, and nor is an
answer that is not accepted. -/
def TakesFrom (t : Ready α) (cancelled : Bool) (x : ResultSource) : Prop :=
  match t.plan.mode with
  | .direct => x = .toolOutput ∧ ∃ accepted after, t.repaired cancelled = (.ok accepted, after)
  | .finalRecord _ dir =>
    let left := (t.asked cancelled).2
    (x = .artifactFinal ∧ left.files.exists? (Artifact.finalRecordFile dir) = true ∧
      ∃ r, Artifact.finalRecord left.files dir = .ok r) ∨
    (x = .toolOutput ∧ left.files.exists? (Artifact.finalRecordFile dir) = false ∧
      ∃ raw r, (t.asked cancelled).1 = .ok raw ∧
        Recovery.acceptDirect left.timestamp t.job.url raw = .ok r)
  | .snapshotPointer runId => x = .artifactSnapshot ∧ ∃ p, t.Names cancelled runId p

/-- The run of the job: the one that the request names, or for a snapshot without one the pointer's. -/
def HasRun (t : Ready α) (cancelled : Bool) (runId : String) : Prop :=
  match t.plan.mode with
  | .direct => False
  | .finalRecord asked _ => runId = asked
  | .snapshotPointer (some asked) => runId = asked
  | .snapshotPointer none => ∃ p, t.Names cancelled none p ∧ Text.trimmed? p.runId = some runId

/-- In direct mode, an answer was accepted after so many further runs of the agent. -/
def Repairs (t : Ready α) (cancelled : Bool) (n : Nat) : Prop :=
  t.plan.mode = .direct ∧ ∃ accepted after, t.repaired cancelled = (.ok accepted, after) ∧
    after.calls.length = (t.checked cancelled).2.calls.length + 1 + n

/-- The agent failed, though a finished record was looked for all the same. -/
def Survives (t : Ready α) (cancelled : Bool) (e : AgentError) : Prop :=
  (∃ runId dir, t.plan.mode = .finalRecord runId dir) ∧ (t.asked cancelled).1 = .error e

/-- What is known about the job is what happened to it. -/
structure Knows (t : Ready α) (cancelled : Bool) (p : Provenance) : Prop where
  source : p.source = some t.source
  tool : p.tool = some t.job.tool
  resultSource : ∀ x, p.resultSource = some x ↔ t.TakesFrom cancelled x
  runId : ∀ runId, p.runId = some runId ↔ t.HasRun cancelled runId
  authCheckError : p.authCheckError = error? (t.checked cancelled).1
  repairAttempts : ∀ n, p.repairAttempts = some n ↔ t.Repairs cancelled n
  toolError : ∀ e, p.toolError = some e ↔ t.Survives cancelled e

/-- The fields that the agent gave for the record that is taken from what it left. -/
def Gives (t : Ready α) (cancelled : Bool) (given : Fields) : Prop :=
  ∃ value facts, t.Takes cancelled value facts given

end Ready

/-- The source of the result in the mode that looks for a finished record. -/
theorem Recovery.source_finalRecord {files : FileTree} {now url : String} {dir : Path}
    {answer : Except AgentError String} {x : ResultSource} :
    (finalRecord files now url dir answer).2 = some x ↔
      (x = .artifactFinal ∧ files.exists? (Artifact.finalRecordFile dir) = true ∧
        ∃ r, Artifact.finalRecord files dir = .ok r) ∨
      (x = .toolOutput ∧ files.exists? (Artifact.finalRecordFile dir) = false ∧
        ∃ raw r, answer = .ok raw ∧ acceptDirect now url raw = .ok r) := by
  unfold finalRecord
  cases hfile : files.exists? (Artifact.finalRecordFile dir) with
  | true =>
    cases Artifact.finalRecord files dir with
    | error e => simp [hfile]
    | ok r => simp [hfile, @eq_comm _ x]
  | false =>
    cases answer with
    | error e => simp [hfile, Except.toOption]
    | ok raw =>
      cases haccept : acceptDirect now url raw with
      | error why => simp [hfile, Except.toOption, haccept]
      | ok r => simp [hfile, Except.toOption, haccept, @eq_comm _ x]

namespace Service

variable {α : Type} {s : Service α} {r : Request} {w : World α} {t : Ready α} {cancelled : Bool}

/-- Each run after the first is one attempt at a repair. -/
theorem calls_repaired {accepted : Repaired Record} {after : World α}
    (h : t.repaired cancelled = (.ok accepted, after)) :
    after.calls.length = (t.checked cancelled).2.calls.length + 1 + accepted.attempts := by
  obtain ⟨runs, outcome, after', hrun, hasked, -, hc⟩ := Repair.run_stages t.adapter
    (t.invocation cancelled) (acceptFor t.job.url) (t.checked cancelled).2
  obtain ⟨rfl, rfl⟩ := Prod.mk.inj (hrun.symm.trans h)
  obtain ⟨-, hattempts⟩ := hc.eq_accepted
  have hleast : 1 ≤ runs.all.length := List.length_pos_of_mem runs.last_mem
  rw [hasked.calls_eq, List.length_append, List.length_map]
  omega

/-- An answer is accepted after so many further runs if the agent was called that often. -/
theorem accepts_of_repaired (hmode : t.plan.mode = .direct)
    (hrepaired : (t.repaired cancelled).1.toOption.isSome = true) {n : Nat}
    (hcalls : (t.repaired cancelled).2.calls.length = (t.checked cancelled).2.calls.length + 1 + n) :
    t.TakesFrom cancelled .toolOutput ∧ t.Repairs cancelled n := by
  obtain ⟨accepted, haccepted⟩ := Option.isSome_iff_exists.mp hrepaired
  have hrun : t.repaired cancelled = (.ok accepted, (t.repaired cancelled).2) :=
    Prod.ext (toOption_eq_some.mp haccepted) rfl
  refine ⟨?_, hmode, accepted, _, hrun, hcalls⟩
  rw [Ready.TakesFrom, hmode]
  exact ⟨rfl, accepted, _, hrun⟩

theorem knows_direct (hmode : t.plan.mode = .direct) : t.Knows cancelled
    (runDirect t.adapter (t.invocation cancelled) (t.facts cancelled) (t.checked cancelled).2).2.1 := by
  have hrun : Repair.run t.adapter (t.invocation cancelled)
      (fun now raw => Recovery.acceptDirect now (t.invocation cancelled).url raw)
      (t.checked cancelled).2 = t.repaired cancelled := rfl
  have hrunId : ∀ runId, t.plan.mode.runId? = some runId ↔ t.HasRun cancelled runId := by
    simp [Ready.HasRun, hmode, Mode.runId?]
  have htool : ∀ e : AgentError, none = some e ↔ t.Survives cancelled e := by
    simp [Ready.Survives, hmode]
  rw [runDirect, hrun]
  cases hrepaired : t.repaired cancelled with
  | mk outcome after =>
    cases outcome with
    | error e =>
      have hsource : ∀ x, none = some x ↔ t.TakesFrom cancelled x := by
        simp [Ready.TakesFrom, hmode, hrepaired]
      have hattempts : ∀ n, none = some n ↔ t.Repairs cancelled n := by
        simp [Ready.Repairs, hrepaired]
      exact ⟨rfl, rfl, hsource, hrunId, rfl, hattempts, htool⟩
    | ok accepted =>
      have hcalls := calls_repaired hrepaired
      have hsource : ∀ x, some .toolOutput = some x ↔ t.TakesFrom cancelled x := by
        simp [Ready.TakesFrom, hmode, hrepaired, eq_comm]
      have hattempts : ∀ n, some accepted.attempts = some n ↔ t.Repairs cancelled n := by
        simp [Ready.Repairs, hmode, hrepaired, hcalls]
      exact ⟨rfl, rfl, hsource, hrunId, rfl, hattempts, htool⟩

theorem knows_finalRecord {asked : String} {dir : Path} (hmode : t.plan.mode = .finalRecord asked dir) :
    t.Knows cancelled (runFinalRecord t.adapter (t.invocation cancelled) dir (t.facts cancelled)
      (t.checked cancelled).2).2.1 := by
  have hsource : ∀ x, (Recovery.finalRecord (t.asked cancelled).2.files (t.asked cancelled).2.timestamp
      t.job.url dir (t.asked cancelled).1).2 = some x ↔ t.TakesFrom cancelled x := by
    intro x
    rw [Recovery.source_finalRecord, Ready.TakesFrom, hmode]
  have hrunId : ∀ runId, t.plan.mode.runId? = some runId ↔ t.HasRun cancelled runId := by
    simp [Ready.HasRun, hmode, Mode.runId?, eq_comm]
  have hattempts : ∀ n : Nat, none = some n ↔ t.Repairs cancelled n := by
    simp [Ready.Repairs, hmode]
  have htool : ∀ e, error? (t.asked cancelled).1 = some e ↔ t.Survives cancelled e := by
    simp [Ready.Survives, hmode, error?_eq_some_iff]
  rw [runFinalRecord_eq]
  exact ⟨rfl, rfl, hsource, hrunId, rfl, hattempts, htool⟩

/-- In the mode that asks for a snapshot no answer is repaired, and no failure of the agent is outlived. -/
theorem knows_of_snapshotPointer {asked : Option String} (hmode : t.plan.mode = .snapshotPointer asked)
    {source : Option ResultSource} {run : Option String}
    (hsource : ∀ x, source = some x ↔ t.TakesFrom cancelled x)
    (hrunId : ∀ runId, run = some runId ↔ t.HasRun cancelled runId) :
    t.Knows cancelled { t.facts cancelled with resultSource := source, runId := run } := by
  have hattempts : ∀ n : Nat, none = some n ↔ t.Repairs cancelled n := by
    simp [Ready.Repairs, hmode]
  have htool : ∀ e : AgentError, none = some e ↔ t.Survives cancelled e := by
    simp [Ready.Survives, hmode]
  exact ⟨rfl, rfl, hsource, hrunId, rfl, hattempts, htool⟩

/-- Of an answer that names no snapshot, nothing more is known. -/
theorem knows_unnamed {asked : Option String} (hmode : t.plan.mode = .snapshotPointer asked)
    (hnone : ∀ p, ¬t.Names cancelled asked p) : t.Knows cancelled (t.facts cancelled) := by
  have hsource : ∀ x, none = some x ↔ t.TakesFrom cancelled x := by
    simp [Ready.TakesFrom, hmode, hnone]
  have hrunId : ∀ runId, t.plan.mode.runId? = some runId ↔ t.HasRun cancelled runId := by
    cases asked with
    | none => simp [Ready.HasRun, hmode, Mode.runId?, hnone]
    | some asked => simp [Ready.HasRun, hmode, Mode.runId?, eq_comm]
  exact knows_of_snapshotPointer hmode hsource hrunId

theorem knows_named {asked : Option String} (hmode : t.plan.mode = .snapshotPointer asked)
    {p : Artifact.SnapshotPointer} (hp : t.Names cancelled asked p) :
    t.Knows cancelled (t.snapshotFacts cancelled p) := by
  have hunique : ∀ q, t.Names cancelled asked q ↔ q = p := by
    obtain ⟨raw, hanswer, hnamed⟩ := hp
    simp [Ready.Names, hanswer, hnamed, eq_comm]
  have hsource : ∀ x, some .artifactSnapshot = some x ↔ t.TakesFrom cancelled x := by
    simp [Ready.TakesFrom, hmode, hunique, eq_comm]
  have hrunId : ∀ runId, (t.plan.mode.runId? <|> Text.trimmed? p.runId) = some runId ↔
      t.HasRun cancelled runId := by
    cases asked with
    | none => simp [Ready.HasRun, hmode, Mode.runId?, hunique]
    | some asked => simp [Ready.HasRun, hmode, Mode.runId?, eq_comm]
  exact knows_of_snapshotPointer hmode hsource hrunId

theorem knows_snapshot {asked : Option String} (hmode : t.plan.mode = .snapshotPointer asked) :
    t.Knows cancelled (runSnapshot t.adapter (t.invocation cancelled) t.job.outDir asked
      (t.facts cancelled) (t.checked cancelled).2).2.1 := by
  have hasked : (t.checked cancelled).2.ask t.adapter (t.invocation cancelled) =
      ((t.asked cancelled).1, (t.asked cancelled).2) := rfl
  cases hanswer : (t.asked cancelled).1 with
  | error e =>
    have hnone : ∀ p, ¬t.Names cancelled asked p := by
      simp [Ready.Names, hanswer]
    rw [runSnapshot, hasked, hanswer]
    exact knows_unnamed hmode hnone
  | ok raw =>
    cases hnamed : Artifact.SnapshotPointer.ofAnswer (t.asked cancelled).2.files t.job.outDir asked raw with
    | error e =>
      have hnone : ∀ p, ¬t.Names cancelled asked p := by
        simp [Ready.Names, hanswer, hnamed]
      rw [runSnapshot, hasked, hanswer]
      dsimp only
      rw [hnamed]
      exact knows_unnamed hmode hnone
    | ok p =>
      have hnames : t.Names cancelled asked p := ⟨raw, hanswer, hnamed⟩
      rw [runSnapshot, hasked, hanswer]
      dsimp only
      rw [hnamed]
      exact knows_named hmode hnames

/-- Asking the agent, as the mode says, makes known what happened to the job. -/
theorem knows_executed (t : Ready α) (cancelled : Bool) :
    t.Knows cancelled (t.executed cancelled).2.1 := by
  rw [executed_eq]
  cases hmode : t.plan.mode with
  | direct => exact knows_direct hmode
  | finalRecord runId dir => exact knows_finalRecord hmode
  | snapshotPointer runId => exact knows_snapshot hmode

/-! ### The facts of a job -/

/-- The facts of a job, by the key under which each is written and the value that it is written as. -/
inductive Fact (s : Service α) (r : Request) (w : World α) (cancelled : Bool) (j : Job) :
    String → Json → Prop where
  | source {m : Marketplace} (page : Marketplace.ofUrl j.url = .ok m) :
    Fact s r w cancelled j "source" (.string m.name)
  | tool : Fact s r w cancelled j "tool" (.string j.tool)
  | resultSource {t : Ready α} {x : ResultSource} (reaches : s.Reaches r w t)
      (takes : t.TakesFrom cancelled x) : Fact s r w cancelled j "result_source" (.string x.name)
  | runId {t : Ready α} {runId : String} (reaches : s.Reaches r w t) (has : t.HasRun cancelled runId) :
    Fact s r w cancelled j "run_id" (.string runId)
  | authCheckError {t : Ready α} {e : AgentError} (reaches : s.Reaches r w t)
      (checked : (t.checked cancelled).1 = .error e) :
    Fact s r w cancelled j "auth_check_error" (.string e.message)
  | repairAttempts {t : Ready α} {n : Nat} (reaches : s.Reaches r w t) (repairs : t.Repairs cancelled n) :
    Fact s r w cancelled j "repair_attempts" (.number (toString n))
  | toolError {t : Ready α} {e : AgentError} (reaches : s.Reaches r w t) (survives : t.Survives cancelled e) :
    Fact s r w cancelled j "tool_error" (.string e.message)

/-- What is known about a job that asks its agent is written as its facts. -/
theorem Reaches.mem_fields_iff_fact (h : s.Reaches r w t) {p : Provenance} (hp : t.Knows cancelled p)
    (key : String) (v : Json) : (key, v) ∈ p.fields ↔ s.Fact r w cancelled t.job key v := by
  obtain ⟨hpage, -, -⟩ := prepare_eq_ok.mp h.prepared
  rw [Provenance.mem_fields_iff]
  constructor
  · rintro (⟨m, hm, rfl, rfl⟩ | ⟨tool, htool, rfl, rfl⟩ | ⟨x, hx, rfl, rfl⟩ | ⟨runId, hrun, rfl, rfl⟩ |
      ⟨e, he, rfl, rfl⟩ | ⟨n, hn, rfl, rfl⟩ | ⟨e, he, rfl, rfl⟩)
    · obtain rfl := Option.some.inj (hp.source.symm.trans hm)
      exact .source hpage
    · obtain rfl := Option.some.inj (hp.tool.symm.trans htool)
      exact .tool
    · exact .resultSource h ((hp.resultSource x).mp hx)
    · exact .runId h ((hp.runId runId).mp hrun)
    · exact .authCheckError h (error?_eq_some_iff.mp (hp.authCheckError.symm.trans he))
    · exact .repairAttempts h ((hp.repairAttempts n).mp hn)
    · exact .toolError h ((hp.toolError e).mp he)
  · intro hfact
    cases hfact with
    | source page =>
      cases hpage.symm.trans page
      exact .inl ⟨_, hp.source, rfl, rfl⟩
    | tool => exact .inr (.inl ⟨_, hp.tool, rfl, rfl⟩)
    | resultSource reaches takes =>
      obtain rfl := h.eq reaches
      exact .inr (.inr (.inl ⟨_, (hp.resultSource _).mpr takes, rfl, rfl⟩))
    | runId reaches has =>
      obtain rfl := h.eq reaches
      exact .inr (.inr (.inr (.inl ⟨_, (hp.runId _).mpr has, rfl, rfl⟩)))
    | authCheckError reaches checked =>
      obtain rfl := h.eq reaches
      exact .inr (.inr (.inr (.inr (.inl ⟨_, hp.authCheckError.trans (error?_eq_some_iff.mpr checked),
        rfl, rfl⟩))))
    | repairAttempts reaches repairs =>
      obtain rfl := h.eq reaches
      exact .inr (.inr (.inr (.inr (.inr (.inl ⟨_, (hp.repairAttempts _).mpr repairs, rfl, rfl⟩)))))
    | toolError reaches survives =>
      obtain rfl := h.eq reaches
      exact .inr (.inr (.inr (.inr (.inr (.inr ⟨_, (hp.toolError _).mpr survives, rfl, rfl⟩)))))

/-- About a job that is refused before, the marketplace may be known. -/
theorem Opens.mem_fields_iff_fact {j : Job} {opened : World α} (h : s.Opens r w j opened)
    {source : Option Marketplace} {e : InputError} (hrefused : s.prepare opened.files j = (source, .error e))
    (cancelled : Bool) (key : String) (v : Json) :
    (key, v) ∈ { Provenance.ofTool j.tool with source : Provenance }.fields ↔
      s.Fact r w cancelled j key v := by
  have hnot : ∀ t, ¬s.Reaches r w t := by
    intro t ht
    obtain rfl : t.job = j := Except.ok.inj (ht.job.symm.trans h.job)
    have hworld : t.world = opened := congrArg Prod.snd (ht.opened.symm.trans h.made)
    have hprepared := ht.prepared
    rw [hworld, hrefused] at hprepared
    cases hprepared
  have hsource : source = (Marketplace.ofUrl j.url).toOption := by
    rw [← prepare_source s opened.files, hrefused]
  rw [Provenance.mem_fields_iff]
  constructor
  · rintro (⟨m, hm, rfl, rfl⟩ | ⟨tool, htool, rfl, rfl⟩ | ⟨_, ⟨⟩, -⟩ | ⟨_, ⟨⟩, -⟩ | ⟨_, ⟨⟩, -⟩ | ⟨_, ⟨⟩, -⟩ |
      ⟨_, ⟨⟩, -⟩)
    · exact .source (toOption_eq_some.mp (hsource.symm.trans hm))
    · obtain rfl := Option.some.inj htool
      exact .tool
  · intro hfact
    cases hfact with
    | source page => exact .inl ⟨_, hsource.trans (toOption_eq_some.mpr page), rfl, rfl⟩
    | tool => exact .inr (.inl ⟨_, rfl, rfl, rfl⟩)
    | resultSource reaches _ => exact absurd reaches (hnot _)
    | runId reaches _ => exact absurd reaches (hnot _)
    | authCheckError reaches _ => exact absurd reaches (hnot _)
    | repairAttempts reaches _ => exact absurd reaches (hnot _)
    | toolError reaches _ => exact absurd reaches (hnot _)

/-- A stamped record has each fact that is known; under a key without one it has what it had before. -/
theorem get?_stamp_of_facts {P : String → Json → Prop} {p : Provenance}
    (hp : ∀ key v, (key, v) ∈ p.fields ↔ P key v) (r : Record) (key : String) :
    (∀ v, P key v → (p.stamp r).get? key = some v) ∧
      ((∀ v, ¬P key v) → (p.stamp r).get? key = r.get? key) := by
  rw [Provenance.get?_stamp]
  constructor
  · intro v hv
    rw [Provenance.get?_fields_iff.mpr ((hp key v).mpr hv), Option.some_or]
  · intro hnone
    have hfields : p.fields.get? key = none :=
      Option.eq_none_iff_forall_ne_some.mpr fun v hv =>
        hnone v ((hp key v).mp (Provenance.get?_fields_iff.mp hv))
    rw [hfields, Option.none_or]

/-- Under the key of a fact a result has nothing, or what the agent gave. -/
theorem get?_settle {result : Except Failure Record} {facts : Provenance} {given : Fields}
    (h : t.Results cancelled result facts given) {key : String} (hkey : key ∈ Provenance.keys)
    (now url : String) : (settle now url result).1.get? key = none ∨
      t.Gives cancelled given ∧ (settle now url result).1.get? key = Fields.get? given key := by
  have hcontract := Provenance.not_mem_contract key hkey
  cases h with
  | taken htakes _ =>
    rw [settle]
    dsimp only
    split
    · rw [Record.normalize_of_normal htakes.normal]
      exact .inr ⟨⟨_, _, htakes⟩, htakes.get?_eq hkey⟩
    · exact .inl (Record.get?_failed hcontract now url _)
  | failed htakes e _ =>
    rw [← htakes.get?_eq hkey]
    exact (get?_completed hcontract now url e _).imp_right fun hget => ⟨⟨_, _, htakes⟩, hget⟩
  | missed _ e => exact .inl (Record.get?_failed hcontract now url _)

/-- The record of a job that has its output directory has every fact of the job under its key. Where the
job has no such fact, the key is missing, or has what the agent gave under it; in the record of a job
without an error it has the latter. -/
theorem run_facts {j : Job} {opened : World α} (h : s.Opens r w j opened) (cancelled : Bool) :
    (∀ key v, s.Fact r w cancelled j key v → (s.run r cancelled w).1.record.get? key = some v) ∧
    (∀ key ∈ Provenance.keys, (∀ v, ¬s.Fact r w cancelled j key v) →
      (s.run r cancelled w).1.record.get? key = none ∨
        ∃ t given, s.Reaches r w t ∧ t.Gives cancelled given ∧
          (s.run r cancelled w).1.record.get? key = Fields.get? given key) ∧
    ((s.run r cancelled w).1.isOk = true →
      ∃ t given, s.Reaches r w t ∧ t.Gives cancelled given ∧
        ∀ key ∈ Provenance.keys, (∀ v, ¬s.Fact r w cancelled j key v) →
          (s.run r cancelled w).1.record.get? key = Fields.get? given key) := by
  obtain ⟨t, hreaches, rfl⟩ | ⟨source, e, hrefused, hrun⟩ := h.reaches_or_refused
  · obtain ⟨given, hresults⟩ := results_executed t cancelled
    have hfacts := hreaches.mem_fields_iff_fact (knows_executed t cancelled)
    rw [hreaches.run_eq]
    refine ⟨fun key v hv => ?_, fun key hkey hnone => ?_, fun hok => ?_⟩
    · rw [finish_record]
      exact (get?_stamp_of_facts hfacts _ key).1 v hv
    · rw [finish_record, (get?_stamp_of_facts hfacts _ key).2 hnone]
      exact (get?_settle hresults hkey _ _).imp_right fun ⟨hgives, hget⟩ =>
        ⟨t, given, hreaches, hgives, hget⟩
    · obtain ⟨value, htakes, -, hvalue⟩ :=
        taken_of_settle hresults (settle_of_finish (Option.isNone_iff_eq_none.mp hok))
      refine ⟨t, given, hreaches, ⟨_, _, htakes⟩, fun key hkey hnone => ?_⟩
      rw [finish_record, (get?_stamp_of_facts hfacts _ key).2 hnone, hvalue, htakes.get?_eq hkey]
  · have hfacts := h.mem_fields_iff_fact hrefused cancelled
    rw [hrun]
    refine ⟨fun key v hv => ?_, fun key hkey hnone => .inl ?_, fun hok => ?_⟩
    · rw [finish_record]
      exact (get?_stamp_of_facts hfacts _ key).1 v hv
    · rw [finish_record, (get?_stamp_of_facts hfacts _ key).2 hnone, settle]
      exact Record.get?_failed (Provenance.not_mem_contract key hkey) _ _ _
    · cases settle_of_finish (Option.isNone_iff_eq_none.mp hok)

/-- The agent answers with the least object that is accepted, at once. -/
theorem run_facts_statusOnly :
    ∃ opened, (single (constant "stub")).Opens (skillJob none).toRequest
        (answeringWorld ⟨[], []⟩ (.ok "\x7b\"status\":\"ok\"\x7d")) (skillJob none) opened ∧
      let record := ((single (constant "stub")).run (skillJob none).toRequest false
        (answeringWorld ⟨[], []⟩ (.ok "\x7b\"status\":\"ok\"\x7d"))).1.record
      record.get? "source" = some (.string "shopee") ∧ record.get? "tool" = some (.string "stub") ∧
        record.get? "result_source" = some (.string "tool_output") ∧
        record.get? "repair_attempts" = some (.number "0") := by
  have hreaches := reaches_direct (.ok "\x7b\"status\":\"ok\"\x7d")
  have hpage : Marketplace.ofUrl (skillJob none).url = .ok .shopee := by decide +kernel
  have hrepaired : ((skillReady none ⟨[], []⟩
      (.ok "\x7b\"status\":\"ok\"\x7d")).repaired false).1.toOption.isSome = true := by
    decide +kernel
  have hcalls : ((skillReady none ⟨[], []⟩
      (.ok "\x7b\"status\":\"ok\"\x7d")).repaired false).2.calls.length = 2 := by
    decide +kernel
  obtain ⟨htakes, hrepairs⟩ := accepts_of_repaired rfl hrepaired (n := 0) hcalls
  obtain ⟨hfacts, -, -⟩ := run_facts hreaches.opens false
  refine ⟨_, hreaches.opens, hfacts _ _ (.source hpage), hfacts _ _ .tool,
    hfacts _ _ (.resultSource hreaches htakes), hfacts _ _ (.repairAttempts hreaches hrepairs)⟩

/-- An answer with keys of facts in it. -/
def markedAnswer : String :=
  "\x7b\"status\":\"ok\",\"run_id\":\"r9\",\"auth_check_error\":\"no login\"," ++
    "\"tool_error\":\"exit code 1\",\"tool\":\"mine\"\x7d"

/-- The check of the agent and its only run succeed, in direct mode. The record tells failures of both, and
a run that the job does not have. -/
theorem run_facts_marked :
    (∃ t, (single (constant "stub")).Reaches (skillJob none).toRequest
        (answeringWorld ⟨[], []⟩ (.ok markedAnswer)) t ∧ t.plan.mode = .direct ∧
      (t.checked false).1 = .ok () ∧ (t.asked false).1 = .ok markedAnswer) ∧
    (∀ key ∈ ["run_id", "auth_check_error", "tool_error"], ∀ v,
      ¬(single (constant "stub")).Fact (skillJob none).toRequest
        (answeringWorld ⟨[], []⟩ (.ok markedAnswer)) false (skillJob none) key v) ∧
    let record := ((single (constant "stub")).run (skillJob none).toRequest false
      (answeringWorld ⟨[], []⟩ (.ok markedAnswer))).1.record
    record.get? "run_id" = some (.string "r9") ∧
      record.get? "auth_check_error" = some (.string "no login") ∧
      record.get? "tool_error" = some (.string "exit code 1") := by
  have hreaches := reaches_direct (.ok markedAnswer)
  refine ⟨⟨_, hreaches, rfl, rfl, rfl⟩, fun key hkey v hfact => ?_, by decide +kernel⟩
  cases hfact with
  | runId reaches has =>
    obtain rfl := hreaches.eq reaches
    exact has
  | authCheckError reaches checked =>
    obtain rfl := hreaches.eq reaches
    cases checked
  | toolError reaches survives =>
    obtain rfl := hreaches.eq reaches
    obtain ⟨⟨_, _, hmode⟩, -⟩ := survives
    cases hmode
  | _ => simp at hkey

end Service

end ListingCrawl
