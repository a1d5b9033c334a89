import ListingCrawl.Artifact.Pointer
import ListingCrawl.Proofs.Files.Components
import ListingCrawl.Proofs.Job.ResultFile

/-! The directory that a pointer gets if it names none. It is put together from a root and a run id. The run
id of a request has been checked and names something in the artifacts of the root; a run id in an answer is
taken as it is and may lead anywhere. -/

namespace ListingCrawl

namespace Files

/-- Where runs have their directories: the output directory, and what it is called in a container. -/
def runRoots (outDir : Path) : List Path :=
  [outDir, ⟨"out"⟩, ⟨"/out"⟩]

def artifacts (root : Path) : Path :=
  root.join ⟨"artifacts"⟩

theorem text_artifacts_ne_empty (root : Path) : (artifacts root).text ≠ "" := by
  obtain h | h := Path.text_join root (Path.isAbsolute_name isPlainName_artifacts) <;> simp [artifacts, h]

/-- A relative run id leads to a directory in the artifacts of the root exactly if it is one name. -/
theorem isChildOf_artifactDir_iff (root : Path) {runId : String}
    (h : (⟨runId⟩ : Path).isAbsolute = false) :
    (artifactDir root runId).IsChildOf (artifacts root) ↔ (⟨runId⟩ : Path).IsOneName :=
  Path.isChildOf_join_iff (text_artifacts_ne_empty root) h

/-- A run id that was checked leads there. -/
theorem isChildOf_artifactDir (root : Path) {runId : String} (hne : runId ≠ "")
    (h : Request.checkRunId runId = .ok ()) : (artifactDir root runId).IsChildOf (artifacts root) := by
  have hname := isPlainName_of_checkRunId hne h
  exact (isChildOf_artifactDir_iff root (Path.isAbsolute_name hname)).mpr
    (Path.isOneName_of_isPlainName hname)

end Files

namespace Artifact.SnapshotPointer

open Files (runRoots artifacts)

/-- The pointer as it stands in an answer. -/
def held (raw : String) : Except PointerError SnapshotPointer :=
  if Text.isBlankText raw then .error .empty
  else
    match Answer.firstObject raw with
    | .error refusal => .error (.noObject refusal)
    | .ok fields =>
      match ofJson (.object fields) with
      | .error mismatch => .error (.badShape mismatch)
      | .ok p =>
        if Text.isBlankText p.url then .error .noUrl
        else if Text.isBlankText p.status then .error .noStatus
        else .ok p

theorem ofAnswer_eq (files : FileTree) (outDir : Path) (asked : Option String) (raw : String) :
    ofAnswer files outDir asked raw = held raw >>= fun p => p.withDir files outDir asked := by
  unfold ofAnswer held
  split
  · rfl
  · cases Answer.firstObject raw with
    | error refusal => rfl
    | ok fields =>
      dsimp only
      cases ofJson (.object fields) with
      | error mismatch => rfl
      | ok p =>
        dsimp only
        split_ifs <;> rfl

theorem runDir_eq (files : FileTree) (outDir : Path) (runId : String) :
    ∃ root ∈ runRoots outDir, runDir files outDir runId = Files.artifactDir root runId := by
  unfold runDir
  cases hfind : (runDirs outDir runId).find? files.isDirectory with
  | none => exact ⟨outDir, by simp [runRoots], rfl⟩
  | some dir =>
    obtain ⟨root, hroot, hdir⟩ := List.mem_map.mp (List.mem_of_find?_eq_some hfind)
    exact ⟨root, hroot, hdir.symm⟩

/-- Filling in a directory leaves the run as it is. -/
theorem runId_withDir {q p : SnapshotPointer} {files : FileTree} {outDir : Path} {asked : Option String}
    (h : q.withDir files outDir asked = .ok p) : p.runId = q.runId := by
  unfold withDir at h
  split at h
  · cases h
    rfl
  · split at h
    · cases h
      rfl
    · split at h
      · cases h
      · cases h
        rfl

/-- Without a directory and absolute files, a pointer needs a run to be of use. -/
theorem withDir_of_absolutePaths {q p : SnapshotPointer} {files : FileTree} {outDir : Path}
    {asked : Option String} (h : q.withDir files outDir asked = .ok p)
    (hdir : Text.isBlankText q.artifactDir = true) (hpaths : q.files.absolutePaths = []) :
    ∃ runId, q.run? asked = some runId ∧ p.artifactDir = (runDir files outDir runId).text := by
  have hfiles : q.dirOfFiles? outDir = none := by rw [dirOfFiles?, hpaths, List.findSome?_nil]
  rw [withDir, hdir, inferDir?, hfiles, hpaths] at h
  cases hrun : q.run? asked with
  | none =>
    rw [hrun] at h
    cases h
  | some runId =>
    rw [hrun] at h
    cases h
    exact ⟨runId, rfl, rfl⟩

/-- A directory that is filled in from a run id is that of the run in one of the roots. It is in the
artifacts of this root if the run id keeps the rule for run ids of requests; a relative one leads there
exactly if it is one name, and an absolute one is the directory itself. -/
theorem ofAnswer_runDir {raw : String} {q : SnapshotPointer} {outDir : Path} {asked : Option String}
    {runId : String} (hheld : held raw = .ok q) (hdir : Text.isBlankText q.artifactDir = true)
    (hfiles : q.dirOfFiles? outDir = none) (hrun : q.run? asked = some runId) (files : FileTree) :
    ∃ root ∈ runRoots outDir,
      ofAnswer files outDir asked raw = .ok { q with artifactDir := (Files.artifactDir root runId).text } ∧
      (runId ≠ "" → Request.checkRunId runId = .ok () →
        (Files.artifactDir root runId).IsChildOf (artifacts root)) ∧
      ((⟨runId⟩ : Path).isAbsolute = false →
        ((Files.artifactDir root runId).IsChildOf (artifacts root) ↔ (⟨runId⟩ : Path).IsOneName)) ∧
      ((⟨runId⟩ : Path).isAbsolute = true → Files.artifactDir root runId = ⟨runId⟩) := by
  obtain ⟨root, hroot, hrunDir⟩ := runDir_eq files outDir runId
  refine ⟨root, hroot, ?_, Files.isChildOf_artifactDir root, Files.isChildOf_artifactDir_iff root,
    Path.join_of_isAbsolute _⟩
  have hinfer : q.inferDir? files outDir asked = some (Files.artifactDir root runId) := by
    rw [inferDir?, hfiles, hrun, ← hrunDir]
    rfl
  rw [ofAnswer_eq, hheld]
  change q.withDir files outDir asked = _
  rw [withDir, hdir, hinfer]
  rfl

/-- A pointer that has nothing but a run id. -/
def bareAnswer (runId : String) : String :=
  "\x7b\"url\":\"u\",\"status\":\"ok\",\"run_id\":\"" ++ runId ++ "\"\x7d"

theorem ofAnswer_runDir_bare : ∃ root ∈ runRoots ⟨"out"⟩, ∃ p,
    ofAnswer ⟨[], []⟩ ⟨"out"⟩ none (bareAnswer " run-1") = .ok p ∧
      p.artifactDir = (Files.artifactDir root "run-1").text ∧
      (Files.artifactDir root "run-1").IsChildOf (artifacts root) := by
  have hheld : ∃ q, held (bareAnswer " run-1") = .ok q ∧ Text.isBlankText q.artifactDir = true ∧
      q.dirOfFiles? ⟨"out"⟩ = none ∧ q.run? none = some "run-1" :=
    ⟨⟨"u", "ok", "", " run-1", "", ⟨"", "", "", "", "", ""⟩, "", ""⟩, by decide +kernel⟩
  obtain ⟨q, hq, hdir, hfiles, hrun⟩ := hheld
  obtain ⟨root, hroot, hanswer, hchild, -⟩ := ofAnswer_runDir hq hdir hfiles hrun ⟨[], []⟩
  exact ⟨root, hroot, _, hanswer, rfl, hchild (by decide) (by decide)⟩

/-- A run id that climbs out of the artifacts. -/
theorem ofAnswer_runDir_climbs : ∃ q, held (bareAnswer "../../etc") = .ok q ∧
    Text.isBlankText q.artifactDir = true ∧ q.dirOfFiles? ⟨"out"⟩ = none ∧
    q.run? none = some "../../etc" ∧
    ∃ p, ofAnswer ⟨[], []⟩ ⟨"out"⟩ none (bareAnswer "../../etc") = .ok p ∧
      p.artifactDir = "out/artifacts/../../etc" ∧
      ∀ root ∈ runRoots ⟨"out"⟩, ¬(⟨p.artifactDir⟩ : Path).IsChildOf (artifacts root) := by
  refine ⟨⟨"u", "ok", "", "../../etc", "", ⟨"", "", "", "", "", ""⟩, "", ""⟩, by decide +kernel,
    by decide, by decide, by decide, ⟨"u", "ok", "", "../../etc", "out/artifacts/../../etc",
      ⟨"", "", "", "", "", ""⟩, "", ""⟩, by decide +kernel, rfl, fun root hroot => ?_⟩
  rintro ⟨name, hname⟩
  have hother : ∀ root ∈ runRoots ⟨"out"⟩,
      (⟨"out/artifacts/../../etc"⟩ : Path).components.dropLast ≠ (artifacts root).components := by
    decide
  apply hother root hroot
  rw [hname, List.dropLast_concat]

end Artifact.SnapshotPointer

end ListingCrawl
