import ListingCrawl.Job.Plan
import ListingCrawl.Job.Recovery
import ListingCrawl.Job.Repair
import ListingCrawl.Job.ResultFile

/-! One crawl job from request to result. Each step is a function of its own; `Service.run` puts them
together. Every job ends with a record that keeps the contract, also one that fails. -/

namespace ListingCrawl

/-- What a job hands back: its record, the file in which it was stored, and the error if it failed. -/
structure Outcome where
  storedAt : Option Path
  record : Record
  error : Option CrawlError
  deriving DecidableEq

def Outcome.isOk (o : Outcome) : Bool :=
  o.error.isNone

/-- The agents and the environment that jobs run with. -/
structure Service (α : Type) where
  registry : Registry α
  env : Environment

namespace Service

variable {α : Type}

/-- The outcome of a job that fails before anything is known about it. -/
def refused (now url : String) (e : CrawlError) : Outcome :=
  ⟨none, .failed now url e.message, some e⟩

/-! ### Preparing -/

/-- Makes the output directory. -/
def openOutDir (j : Job) (w : World α) : Except CrawlError Unit × World α :=
  let (result, files) := w.files.makeDirectories j.outDir
  (result.mapError fun e => .artifact j.outDir (.createOutDir e), { w with files })

/-- Chooses the agent and makes the plan for a page of a marketplace. -/
def choose (s : Service α) (files : FileTree) (j : Job) (m : Marketplace) :
    Except InputError (Plan × Adapter α) :=
  match s.registry.get? j.tool with
  | none => .error (.tool j.tool s.registry.names)
  | some a =>
    match Plan.ofJob files j m with
    | .error e => .error e
    | .ok plan => .ok (plan, a)

/-- Does all that can fail before an agent is asked. The marketplace is known also if a later part
fails. -/
def prepare (s : Service α) (files : FileTree) (j : Job) :
    Option Marketplace × Except InputError (Plan × Adapter α) :=
  match Marketplace.ofUrl j.url with
  | .error e => (none, .error (.page e))
  | .ok m => (some m, s.choose files j m)

/-! ### Asking -/

def invocation (j : Job) (prompt : String) (cancelled : Bool) : Invocation :=
  { url := j.url, prompt, model := j.model, skipGitRepoCheck := j.skipGitRepoCheck, cancelled }

/-- Checks the agent's credentials and notes a failure. -/
def probe (a : Adapter α) (cancelled : Bool) (p : Provenance) (w : World α) :
    Provenance × World α :=
  match w.check a cancelled with
  | (.ok (), w) => (p, w)
  | (.error e, w) => ({ p with authCheckError := some e }, w)

/-- Takes the result from the agent's answer. -/
def runDirect (a : Adapter α) (i : Invocation) (p : Provenance) (w : World α) :
    Except Failure Record × Provenance × World α :=
  match Repair.run a i (fun now raw => Recovery.acceptDirect now i.url raw) w with
  | (.error e, w) => (.error ⟨e, none⟩, p, w)
  | (.ok repaired, w) =>
    (.ok repaired.value,
      { p with resultSource := some .toolOutput, repairAttempts := some repaired.attempts }, w)

/-- Takes the result from the directory of the run. -/
def runFinalRecord (a : Adapter α) (i : Invocation) (dir : Path) (p : Provenance) (w : World α) :
    Except Failure Record × Provenance × World α :=
  let (answer, w) := w.ask a i
  let (result, source) := Recovery.finalRecord w.files w.timestamp i.url dir answer
  let toolError := match answer with
    | .error e => some e
    | .ok _ => none
  (result, { p with resultSource := source, toolError }, w)

/-- Takes the result from the files that the agent's answer names. -/
def runSnapshot (a : Adapter α) (i : Invocation) (outDir : Path) (runId : Option String)
    (p : Provenance) (w : World α) : Except Failure Record × Provenance × World α :=
  match w.ask a i with
  | (.error e, w) => (.error ⟨.execution a.name e, none⟩, p, w)
  | (.ok raw, w) =>
    match Artifact.SnapshotPointer.ofAnswer w.files outDir runId raw with
    | .error e => (.error ⟨.extraction (.pointer e), none⟩, p, w)
    | .ok pointer =>
      let p := { p with
        runId := p.runId <|> Text.trimmed? pointer.runId
        resultSource := some .artifactSnapshot }
      (Recovery.snapshot w.files w.timestamp i.url pointer, p, w)

/-- Checks the agent's credentials, then asks it as the plan says. -/
def execute (a : Adapter α) (j : Job) (plan : Plan) (cancelled : Bool) (p : Provenance)
    (w : World α) : Except Failure Record × Provenance × World α :=
  let (p, w) := probe a cancelled p w
  let i := invocation j plan.prompt cancelled
  match plan.mode with
  | .direct => runDirect a i p w
  | .finalRecord _ dir => runFinalRecord a i dir p w
  | .snapshotPointer runId => runSnapshot a i j.outDir runId p w

/-! ### Finishing -/

/-- The record of a failure that brought one, with what an error record must have filled in. -/
def completed (now url : String) (e : CrawlError) (r : Record) : Record :=
  let r := r.insertText "status" Status.error.name
  let r := if Listing.isMissing (r.text? "url") then r.insertText "url" url else r
  let r := if Listing.isMissing (r.text? "error") then r.insertText "error" e.message else r
  let r := if (r.text? "captured_at").any fun t => Time.isRfc3339 (Text.trim t) then r
    else r.insertText "captured_at" now
  match r.validate with
  | .ok _ => r
  | .error _ => .failed now url e.message

/-- The record of a result or a failure, normalized and checked, with the error that it stands for. -/
def settle (now url : String) : Except Failure Record → Record × Option CrawlError
  | .ok r =>
    let r := r.normalize now url
    match r.validate with
    | .ok _ => (r, none)
    | .error violations =>
      let e := CrawlError.contract violations none
      (.failed now url e.message, some e)
  | .error ⟨e, some r⟩ => (completed now url e r, some e)
  | .error ⟨e, none⟩ => (.failed now url e.message, some e)

/-- Is the record stored? It is if the job failed before its mode was known, too. -/
def isStored (mode : Option Mode) : Bool :=
  mode.all Mode.writesResultFile

/-- Stores the record of an outcome. That it cannot be stored is an error only if there is no other. -/
def store (j : Job) (source : Option Marketplace) (o : Outcome) (w : World α) :
    Outcome × World α :=
  match ResultFile.store j.outDir source o.record w with
  | (.ok file, w) => ({ o with storedAt := some file }, w)
  | (.error e, w) => ({ o with error := o.error <|> some (.artifact j.outDir (.store e)) }, w)

/-- Settles the result, stamps it and stores it if the mode asks for it. -/
def finish (j : Job) (mode : Option Mode) (result : Except Failure Record) (p : Provenance)
    (w : World α) : Outcome × World α :=
  let (r, error) := settle w.timestamp j.url result
  let o : Outcome := ⟨none, p.stamp r, error⟩
  if isStored mode then store j p.source o w else (o, w)

/-! ### Jobs -/

/-- Runs a job whose output directory exists. -/
def runOpened (s : Service α) (j : Job) (cancelled : Bool) (w : World α) : Outcome × World α :=
  let p := Provenance.ofTool j.tool
  match s.prepare w.files j with
  | (source, .error e) =>
    finish j none (.error ⟨.input e, none⟩) { p with source } w
  | (source, .ok (plan, a)) =>
    let p := { p with source, runId := plan.mode.runId? }
    let (result, p, w) := execute a j plan cancelled p w
    finish j (some plan.mode) result p w

def runJob (s : Service α) (j : Job) (cancelled : Bool) (w : World α) : Outcome × World α :=
  match openOutDir j w with
  | (.error e, w) => (refused w.timestamp j.url e, w)
  | (.ok (), w) => s.runOpened j cancelled w

/-- Runs the job that a request asks for. -/
def run (s : Service α) (r : Request) (cancelled : Bool) (w : World α) : Outcome × World α :=
  match r.toJob s.env with
  | .error e => (refused w.timestamp (Text.trim r.url) (.input (.request e)), w)
  | .ok j => s.runJob j cancelled w

end Service

end ListingCrawl
