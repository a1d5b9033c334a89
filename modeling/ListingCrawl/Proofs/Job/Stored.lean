import ListingCrawl.Proofs.Job.Calls
import ListingCrawl.Proofs.Job.ResultFile
import ListingCrawl.Proofs.Json.RoundTrip
import ListingCrawl.Proofs.Record.AsRead

/-! Which jobs store their record, and what is then in the file. A record is stored if the output
directory was made and the result is not in files anyway; the others leave nothing of their own but
directories. What was stored was read from an answer or is an error record, so it can be read again,
unless an object in it begins with the reserved key. No answer gives such an object, but a variation
can become one, since its `image` goes to its `images`. -/

namespace ListingCrawl

open Json (AsRead EntriesAsRead)

/-- A record from a text that holds it and nothing else. At the top the first key is a key like others. -/
def Record.ofDocument? (s : Octets) : Option Record :=
  match Json.skipSpace s with
  | [] => none
  | b :: rest =>
    if b = Octets.openBrace then do
      let (ms, after) ← (Json.readMembers (Json.readValue 126) rest).toOption
      if (Json.skipSpace after).isEmpty then some ⟨Fields.ofEntries ms⟩ else none
    else none

namespace ResultFile

variable {α : Type} {outDir file : Path} {source : Option Marketplace} {r : Record} {w : World α}

/-- A record that was stored is where the path says. -/
theorem keeps_of_store (hout : outDir.text ≠ "") (h : (store outDir source r w).1 = .ok file) :
    Keeps (store outDir source r w).2.files outDir file (content r) := by
  have hstore := store_eq hout source r w
  have hkept := courseOf_eq_ok source w hout
  generalize courseOf outDir source w = x at hstore hkept
  obtain ⟨course, t⟩ := x
  dsimp only at hstore hkept
  rw [hstore] at h ⊢
  obtain ⟨⟨⟩, hresult, rfl⟩ := map_eq_ok.mp h
  obtain ⟨final, -, hfile⟩ := hkept hresult
  exact (hfile (content r)).1

/-- The content begins with a brace, and its members are those of the record if these are plain. -/
theorem content_eq (h : EntriesAsRead 126 r.fields) (hplain : ∀ e ∈ r.fields, e.2.Plain) :
    ∃ s, content r = Octets.openBrace :: s ∧ Json.readMembers (Json.readValue 126) s =
      .ok (r.fields, Octets.ofChars ['\n']) := by
  have hvalues : ∀ e ∈ r.fields, Json.Spells 126 (Octets.ofChars (Json.prettyChars (0 + 1) e.2)) e.2 :=
    fun e he => Json.spells_pretty (h.values e he) (hplain e he) 1
  obtain ⟨cs, hcs, hread⟩ := Json.readMembers_pretty hvalues
  refine ⟨Octets.ofChars cs ++ Octets.ofChars ['\n'], ?_, hread _⟩
  have htext : Octets.ofText r.toJson.pretty = Octets.ofChars ('\x7b' :: cs) := by
    rw [Octets.ofText, Json.pretty, String.toList_ofList]
    exact congrArg Octets.ofChars hcs
  rw [content, Octets.ofText_append, htext, Octets.ofChars_openBrace, List.cons_append]
  rfl

/-- The members of a text from which a record is decoded are plain. -/
theorem plain_of_ofDocument? {s : Octets} (h : Record.ofDocument? s = some r) :
    ∀ e ∈ r.fields, e.2.Plain := by
  unfold Record.ofDocument? at h
  split at h
  · cases h
  · split at h
    · obtain ⟨⟨ms, after⟩, hms, h⟩ := Option.bind_eq_some_iff.mp h
      dsimp only at h
      split at h
      · cases h
        have hread := toOption_eq_some.mp hms
        intro e he
        exact (Json.gives_readMembers (Json.gives_readValue 126) _ _ _ hread e
          (Fields.mem_of_mem_ofEntries he)).2
      · cases h
    · cases h

/-- The record is decoded from what is stored of it exactly if its values are plain. -/
theorem ofDocument?_content (h : EntriesAsRead 126 r.fields) :
    Record.ofDocument? (content r) = some r ↔ ∀ e ∈ r.fields, e.2.Plain := by
  refine ⟨plain_of_ofDocument?, fun hplain => ?_⟩
  obtain ⟨s, hcontent, hread⟩ := content_eq h hplain
  have hspace : Json.skipSpace (Octets.ofChars ['\n']) = [] := by decide
  simp only [Record.ofDocument?, hcontent, Json.skipSpace_cons (b := Octets.openBrace) (by decide),
    if_true, hread, Except.toOption, bind, Option.bind, hspace, List.isEmpty_nil,
    Fields.ofEntries_of_nodup h.nodup]

/-- What is stored of a record is the text of a value, which is the record itself, exactly if this is
plain. -/
theorem readDocument_content (h : EntriesAsRead 126 r.fields) :
    Json.readDocument (content r) = .ok r.toJson ↔ r.toJson.Plain := by
  constructor
  · intro hread
    obtain ⟨⟨v, after⟩, hv, hread⟩ := bind_eq_ok.mp hread
    dsimp only at hread
    split at hread
    · cases hread
      exact (Json.gives_readValue _ _ _ _ hv).2
    · cases hread
  · intro hplain
    rw [content, Octets.ofText_append]
    exact Json.readDocument_pretty (Json.asRead_object_iff.mpr h) hplain (Json.isSpaces_newLine 0)

end ResultFile

namespace Provenance

/-- Facts are texts, and one is a number. -/
theorem asRead_fields (levels : Nat) (p : Provenance) : ∀ e ∈ p.fields, AsRead levels e.2 := by
  rintro ⟨key, v⟩ he
  obtain ⟨_, -, -, rfl⟩ | ⟨_, -, -, rfl⟩ | ⟨_, -, -, rfl⟩ | ⟨_, -, -, rfl⟩ | ⟨_, -, -, rfl⟩ |
    ⟨n, -, -, rfl⟩ | ⟨_, -, -, rfl⟩ := mem_fields_iff.mp he
  case inr.inr.inr.inr.inr.inl => exact .number levels (Json.isToken_toString n)
  all_goals exact .string levels _

theorem asRead_stamp {levels : Nat} {r : Record} (p : Provenance) (h : EntriesAsRead levels r.fields) :
    EntriesAsRead levels (p.stamp r).fields :=
  p.stamp_induction (P := fun r => EntriesAsRead levels r.fields) h
    fun _ e he hr => hr.insert (p.asRead_fields levels e he)

end Provenance

namespace Service

variable {α : Type} {s : Service α} {r : Request} {cancelled : Bool} {w after : World α} {j : Job}
  {source : Option Marketplace}

/-! ### Records to be stored -/

/-- A failure that brings no record is told in one of texts. -/
theorem asRead_failure (now : String) (j : Job) (e : CrawlError) (p : Provenance) :
    EntriesAsRead 126 (unstored now j (.error ⟨e, none⟩) p).record.fields :=
  p.asRead_stamp (Record.asRead_failed 126 now j.url e.message)

/-- A result that was read stays as it was read, also if it is replaced by an error record. -/
theorem asRead_result {r : Record} (h : EntriesAsRead 126 r.fields) (now : String) (j : Job)
    (p : Provenance) : EntriesAsRead 126 (unstored now j (.ok r) p).record.fields := by
  refine p.asRead_stamp ?_
  rw [settle]
  dsimp only
  split
  · exact Record.asRead_normalize 123 h now j.url
  · exact Record.asRead_failed 126 _ _ _

/-- The job gets so far that its record is to be stored, in this world: its output directory was made, and
it failed before its mode was known, or its mode is direct. -/
inductive Stores (s : Service α) (r : Request) (cancelled : Bool) (w : World α) :
    Job → Option Marketplace → World α → Prop where
  | unplanned {j : Job} {opened : World α} {source : Option Marketplace} {e : InputError}
      (opens : s.Opens r w j opened) (prepared : s.prepare opened.files j = (source, .error e)) :
    Stores s r cancelled w j source opened
  | answered {t : Ready α} (reaches : s.Reaches r w t) (mode : t.plan.mode = .direct) :
    Stores s r cancelled w t.job (some t.source)
      (runDirect t.adapter (t.invocation cancelled) (t.facts cancelled) (t.checked cancelled).2).2.2

/-- A job ends by storing its record, which is the one that it returns. -/
theorem Stores.run_eq (h : s.Stores r cancelled w j source after) : ∃ before : Outcome,
    before.storedAt = none ∧ EntriesAsRead 126 before.record.fields ∧
      s.run r cancelled w = store j source before after := by
  cases h with
  | @unplanned _ _ _ e opens prepared =>
    obtain ⟨t, hreaches, rfl⟩ | ⟨_, _, prepared', hrun⟩ := opens.reaches_or_refused
    · have hworld := congrArg Prod.snd (hreaches.opened.symm.trans opens.made)
      dsimp only at hworld
      rw [← hworld, hreaches.prepared] at prepared
      cases prepared
    · cases prepared.symm.trans prepared'
      have hfinish := (hrun cancelled).trans (finish_of_isStored rfl _ _ _ _)
      exact ⟨_, rfl, asRead_failure _ j (.input e) _, hfinish⟩
  | @answered t reaches mode =>
    obtain ⟨runs, world, -, -, hlast⟩ :=
      runDirect_runs t.adapter (t.invocation cancelled) (t.facts cancelled) (t.checked cancelled).2
    have hrun := reaches.run_direct_eq mode cancelled
    obtain ⟨value, hv, hresult⟩ | ⟨-, e, -, hresult⟩ := hlast
    · obtain ⟨raw, -, haccept⟩ := Repair.verdict_eq_accepted.mp hv
      obtain ⟨fields, hobject, rfl, -⟩ := Recovery.acceptDirect_eq_ok.mp haccept
      obtain ⟨hstart, -⟩ := Answer.findObject?_sound (Answer.statusObject_eq_ok.mp hobject)
      have hvalue := fun now => Record.asRead_normalize 123 (r := ⟨fields⟩) hstart.asRead.1 now
      rw [hresult] at hrun ⊢
      have hfinish := hrun.trans (finish_of_isStored rfl _ _ _ _)
      exact ⟨_, rfl, asRead_result (hvalue _ _) _ t.job _, hfinish⟩
    · rw [hresult] at hrun ⊢
      have hfinish := hrun.trans (finish_of_isStored rfl _ _ _ _)
      exact ⟨_, rfl, asRead_failure _ t.job e _, hfinish⟩

/-! ### Storing -/

theorem store_storedAt_iff {before : Outcome} (hbefore : before.storedAt = none) {file : Path} :
    (store j source before w).1.storedAt = some file ↔
      (ResultFile.store j.outDir source before.record w).1 = .ok file := by
  unfold store
  generalize ResultFile.store j.outDir source before.record w = x
  obtain ⟨result, after⟩ := x
  cases result with
  | error e => simp [hbefore]
  | ok path => simp

theorem store_world (before : Outcome) :
    (store j source before w).2 = (ResultFile.store j.outDir source before.record w).2 := by
  unfold store
  generalize ResultFile.store j.outDir source before.record w = x
  obtain ⟨result, after⟩ := x
  cases result <;> rfl

/-- A job that stores its record does so in one way. -/
theorem Stores.storedAt_iff (h : s.Stores r cancelled w j source after) {file : Path} :
    (s.run r cancelled w).1.storedAt = some file ↔
      (ResultFile.store j.outDir source (s.run r cancelled w).1.record after).1 = .ok file := by
  obtain ⟨before, hbefore, -, hrun⟩ := h.run_eq
  rw [hrun, store_storedAt_iff hbefore, (Ends.stored j source after).record_eq]

/-- Only a record that is to be stored gets a file. -/
theorem stores_of_storedAt {file : Path} (h : (s.run r cancelled w).1.storedAt = some file) :
    ∃ j source after, s.Stores r cancelled w j source after := by
  obtain ⟨j, opened, hopens⟩ | ⟨url, e, hrefused⟩ := s.opens_or_refused r w
  · obtain ⟨t, hreaches, rfl⟩ | ⟨source, e, prepared, -⟩ := hopens.reaches_or_refused
    · by_cases hmode : t.plan.mode = .direct
      · exact ⟨_, _, _, .answered hreaches hmode⟩
      · have hstored : isStored (some t.plan.mode) = false := by
          cases hm : t.plan.mode with
          | direct => exact absurd hm hmode
          | finalRecord runId dir => rfl
          | snapshotPointer runId => rfl
        rw [hreaches.run_eq, finish_of_not_isStored hstored] at h
        cases h
    · exact ⟨j, source, opened, .unplanned hopens prepared⟩
  · obtain ⟨after, hrun⟩ := hrefused cancelled
    rw [hrun] at h
    cases h

theorem Stores.job (h : s.Stores r cancelled w j source after) : r.toJob s.env = .ok j := by
  cases h with
  | unplanned opens _ => exact opens.job
  | answered reaches _ => exact reaches.job

/-- The record that has a file is the one that is in it. -/
theorem keeps_of_storedAt {file : Path} (h : (s.run r cancelled w).1.storedAt = some file) :
    ∃ j, r.toJob s.env = .ok j ∧ ResultFile.Keeps (s.run r cancelled w).2.files j.outDir file
      (ResultFile.content (s.run r cancelled w).1.record) := by
  obtain ⟨j, source, after, hstores⟩ := stores_of_storedAt h
  have hwritten := hstores.storedAt_iff.mp h
  obtain ⟨before, -, -, hrun⟩ := hstores.run_eq
  have hkeeps := ResultFile.keeps_of_store (Request.outDir_of_toJob hstores.job) hwritten
  refine ⟨j, hstores.job, ?_⟩
  rw [hrun, (Ends.stored j source after).record_eq] at hkeeps
  rw [hrun, (Ends.stored j source after).record_eq, store_world]
  exact hkeeps

theorem asRead_of_storedAt {file : Path} (h : (s.run r cancelled w).1.storedAt = some file) :
    EntriesAsRead 126 (s.run r cancelled w).1.record.fields := by
  obtain ⟨j, source, after, hstores⟩ := stores_of_storedAt h
  obtain ⟨before, -, hread, hrun⟩ := hstores.run_eq
  rw [hrun, (Ends.stored j source after).record_eq]
  exact hread

theorem grows_openOutDir (j : Job) (w : World α) : w.files.Grows (openOutDir j w).2.files :=
  FileTree.grows_makeDirectories w.files j.outDir

/-- A record has a file exactly if the request is a job whose output directory was made, the job failed
before its mode was known or is in direct mode, and writing succeeded. The file is in the output directory
itself and holds the pretty form of the record that is returned. This record is decoded from it again, with
the same keys and values in the same order, exactly if no object among its values begins with the reserved
key; and it is the text of this record as a value exactly if the record does not begin with this key either.
A rejected request leaves everything as it was. A job that has no output directory, or whose result is in
files, makes directories and nothing else. -/
theorem run_storedAt (s : Service α) (r : Request) (cancelled : Bool) (w : World α) :
    (∀ file, (s.run r cancelled w).1.storedAt = some file ↔
      ∃ j source after, s.Stores r cancelled w j source after ∧
        (ResultFile.store j.outDir source (s.run r cancelled w).1.record after).1 = .ok file) ∧
    (∀ file, (s.run r cancelled w).1.storedAt = some file → ∃ j, r.toJob s.env = .ok j ∧
      ResultFile.Keeps (s.run r cancelled w).2.files j.outDir file
        (Octets.ofText ((s.run r cancelled w).1.record.toJson.pretty ++ "\n")) ∧
      (Record.ofDocument? (Octets.ofText ((s.run r cancelled w).1.record.toJson.pretty ++ "\n")) =
        some (s.run r cancelled w).1.record ↔
          ∀ e ∈ (s.run r cancelled w).1.record.fields, e.2.Plain) ∧
      (Json.readDocument (Octets.ofText ((s.run r cancelled w).1.record.toJson.pretty ++ "\n")) =
        .ok (s.run r cancelled w).1.record.toJson ↔
          (s.run r cancelled w).1.record.toJson.Plain)) ∧
    (∀ e, r.toJob s.env = .error e → (s.run r cancelled w).2 = w) ∧
    (∀ j e opened, r.toJob s.env = .ok j → openOutDir j w = (.error e, opened) →
      (s.run r cancelled w).2 = opened ∧ w.files.Grows opened.files) ∧
    ∀ t, s.Reaches r w t → t.plan.mode ≠ .direct →
      w.files.Grows t.world.files ∧ (s.run r cancelled w).2 = (t.asked cancelled).2 := by
  refine ⟨fun file => ⟨fun h => ?_, ?_⟩, fun file h => ?_, fun e he => ?_, ?_, fun t h hmode => ?_⟩
  · obtain ⟨j, source, after, hstores⟩ := stores_of_storedAt h
    exact ⟨j, source, after, hstores, hstores.storedAt_iff.mp h⟩
  · rintro ⟨j, source, after, hstores, hwritten⟩
    exact hstores.storedAt_iff.mpr hwritten
  · obtain ⟨j, hjob, hkeeps⟩ := keeps_of_storedAt h
    have hread := asRead_of_storedAt h
    exact ⟨j, hjob, hkeeps, ResultFile.ofDocument?_content hread, ResultFile.readDocument_content hread⟩
  · rw [run, he]
  · intro j e opened hjob hmade
    have hgrows := grows_openOutDir j w
    rw [hmade] at hgrows
    refine ⟨?_, hgrows⟩
    simp only [run, hjob, runJob, hmade]
  · have hgrows := grows_openOutDir t.job w
    rw [h.opened] at hgrows
    exact ⟨hgrows, h.run_world hmode cancelled⟩

/-- A job in direct mode whose agent answers with the least object that is accepted. -/
theorem run_storedAt_statusOnly :
    let done := (single (constant "stub")).run (skillJob none).toRequest false
      (answeringWorld ⟨[], []⟩ (.ok "\x7b\"status\":\"ok\"\x7d"))
    let file : Path := ⟨"out/20260101T000000Z_shopee_00000000.json"⟩
    let content := Octets.ofText (done.1.record.toJson.pretty ++ "\n")
    done.1.storedAt = some file ∧ ResultFile.Keeps done.2.files ⟨"out"⟩ file content ∧
      Record.ofDocument? content = some done.1.record ∧
        Json.readDocument content = .ok done.1.record.toJson := by
  have hjob : (skillJob none).toRequest.toJob (fun _ => none) = .ok (skillJob none) := by
    decide +kernel
  have hstored : ((single (constant "stub")).run (skillJob none).toRequest false
      (answeringWorld ⟨[], []⟩ (.ok "\x7b\"status\":\"ok\"\x7d"))).1.storedAt =
        some ⟨"out/20260101T000000Z_shopee_00000000.json"⟩ := by
    decide +kernel
  have hrecord : ((single (constant "stub")).run (skillJob none).toRequest false
      (answeringWorld ⟨[], []⟩ (.ok "\x7b\"status\":\"ok\"\x7d"))).1.record.fields =
        [("status", .string "ok"), ("url", .string "app://shopee.tw/1"),
          ("captured_at", .string "2026-01-01T00:00:00.000Z"), ("images", .array []),
          ("variations", .array []), ("source", .string "shopee"), ("tool", .string "stub"),
          ("result_source", .string "tool_output"), ("repair_attempts", .number "0")] := by
    decide +kernel
  have hplain : ∀ e ∈ ((single (constant "stub")).run (skillJob none).toRequest false
      (answeringWorld ⟨[], []⟩ (.ok "\x7b\"status\":\"ok\"\x7d"))).1.record.fields, e.2.Plain := by
    simp [hrecord, Json.Plain.string, Json.Plain.number, Json.plain_array_iff]
  obtain ⟨-, hfile, -⟩ := run_storedAt (single (constant "stub")) (skillJob none).toRequest false
    (answeringWorld ⟨[], []⟩ (.ok "\x7b\"status\":\"ok\"\x7d"))
  obtain ⟨j, hj, hkeeps, hrecordRead, hvalueRead⟩ := hfile _ hstored
  obtain rfl : skillJob none = j := Except.ok.inj (hjob.symm.trans hj)
  have hfirst : Fields.holdsNumber ((single (constant "stub")).run (skillJob none).toRequest false
      (answeringWorld ⟨[], []⟩ (.ok "\x7b\"status\":\"ok\"\x7d"))).1.record.fields = false := by
    rw [hrecord]
    decide
  exact ⟨hstored, hkeeps, hrecordRead.mpr hplain,
    hvalueRead.mpr (Json.plain_object_iff.mpr ⟨hfirst, hplain⟩)⟩

/-- The `image` of the variation stands before the reserved key. It is removed, and then what is stored
cannot be read again as the record that is returned. -/
theorem run_storedAt_unreadable :
    let done := (single (constant "stub")).run (skillJob none).toRequest false
      (answeringWorld ⟨[], []⟩ (.ok ("\x7b\"status\":\"ok\",\"variations\":[\x7b\"image\":\" \"," ++
        "\"$serde_json::private::Number\":\"x\",\"title\":\"T\"\x7d]\x7d")))
    let file : Path := ⟨"out/20260101T000000Z_shopee_00000000.json"⟩
    let content := Octets.ofText (done.1.record.toJson.pretty ++ "\n")
    done.1.error = none ∧ done.1.storedAt = some file ∧ done.2.files.read file = .ok content ∧
      Record.ofDocument? content ≠ some done.1.record ∧
        Json.readDocument content ≠ .ok done.1.record.toJson := by
  intro done file content
  have herror : done.1.error = none := by decide +kernel
  have hstored : done.1.storedAt = some file := by decide +kernel
  have hvariations : done.1.record.get? "variations" = some (.array [.object
      [(Fields.numberKey, .string "x"), ("title", .string "T"), ("images", .array [])]]) := by
    decide +kernel
  obtain ⟨j, -, hkeeps⟩ := keeps_of_storedAt hstored
  have hread := asRead_of_storedAt hstored
  have hplain : ¬∀ e ∈ done.1.record.fields, e.2.Plain := by
    intro hplain
    have hitems := Json.plain_array_iff.mp (hplain _ (Fields.mem_of_get? hvariations))
    cases (Json.plain_object_iff.mp (hitems _ List.mem_cons_self)).1
  refine ⟨herror, hstored, hkeeps.read, fun h => hplain ((ResultFile.ofDocument?_content hread).mp h),
    fun h => hplain (Json.plain_object_iff.mp ((ResultFile.readDocument_content hread).mp h)).2⟩

end Service

end ListingCrawl
