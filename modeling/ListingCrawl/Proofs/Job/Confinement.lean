import ListingCrawl.Proofs.Artifact.RunDirectory
import ListingCrawl.Proofs.Job.Request

/-! The directory of a run is confined to the artifacts of its output directory. Whatever text a request gives as
a run id, the directory is one ordinary name below the artifacts, as a path and as a place in every file tree,
and the directories of two runs with different run ids have nothing in common below the artifacts. -/

namespace ListingCrawl

variable {outDir dir dir' : Path} {runId other : String}

/-! ### Directories of runs -/

theorem isPlainName_runId {env : Environment} {r : Request} {j : Job} (h : r.toJob env = .ok j)
    (hrun : j.runId = some runId) : IsPlainName runId := by
  have hasked := Request.toJob_eq_ok.mp h
  have htrimmed : Text.IsTrimmed runId := Text.isTrimmed_of_bind (hasked.runId ▸ hrun)
  exact isPlainName_of_checkRunId htrimmed.ne_empty (hasked.checked runId hrun)

namespace Files

/-- The place of a run's directory. -/
def runPlace (out : Location) (runId : String) : Location :=
  out ++ ["artifacts", runId]

theorem runPlace_apart (out : Location) (h : runId ≠ other) : ¬ runPlace out runId <+: runPlace out other := by
  rw [runPlace, runPlace, List.prefix_append_right_inj]
  simpa using h

/-- The directory has this one name in the artifacts of the output directory, and it has its place there wherever
the output directory is. -/
structure IsRunDir (outDir : Path) (runId : String) (dir : Path) : Prop where
  name : IsPlainName runId
  components : dir.components = outDir.components ++ [.name "artifacts", .name runId]
  place : ∀ (t : FileTree) l, t.locate dir = .ok l →
    ∃ out, t.locate outDir = .ok out ∧ l = runPlace out runId

theorem isRunDir_artifactDir (hout : outDir.text ≠ "") (hname : IsPlainName runId) :
    IsRunDir outDir runId (artifactDir outDir runId) := by
  have hartifacts := text_artifacts_ne_empty outDir
  refine ⟨hname, ?_, fun t l hl => ?_⟩
  · have hjoin := Path.components_join_name hartifacts hname
    rw [artifacts, Path.components_join_name hout isPlainName_artifacts, List.append_assoc] at hjoin
    exact hjoin
  · obtain ⟨place, hplace, -, -, rfl⟩ := (FileTree.locate_join_eq_ok hartifacts hname).mp hl
    obtain ⟨out, hout', -, -, rfl⟩ := (FileTree.locate_join_eq_ok hout isPlainName_artifacts).mp hplace
    exact ⟨out, hout', List.append_assoc ..⟩

end Files

/-- Neither of the paths is the other or leads into it, as they are written and in every file tree. -/
structure Path.Apart (p q : Path) : Prop where
  not_startsWith : p.startsWith q = false ∧ q.startsWith p = false
  places : ∀ (t : FileTree) l m, t.locate p = .ok l → t.locate q = .ok m → ¬ l <+: m ∧ ¬ m <+: l

namespace Files

theorem IsRunDir.not_startsWith (h : IsRunDir outDir runId dir) (h' : IsRunDir outDir other dir')
    (hne : runId ≠ other) : dir.startsWith dir' = false := by
  rw [← Bool.not_eq_true, Path.startsWith, List.isPrefixOf_iff_prefix, h.components, h'.components,
    List.prefix_append_right_inj]
  simpa using hne.symm

/-- The directories of different runs are apart. -/
theorem IsRunDir.apart (h : IsRunDir outDir runId dir) (h' : IsRunDir outDir other dir')
    (hne : runId ≠ other) : dir.Apart dir' := by
  refine ⟨⟨h.not_startsWith h' hne, h'.not_startsWith h hne.symm⟩, fun t l m hl hm => ?_⟩
  obtain ⟨out, hout, rfl⟩ := h.place t l hl
  obtain ⟨out', hout', rfl⟩ := h'.place t m hm
  cases hout.symm.trans hout'
  exact ⟨runPlace_apart out hne, runPlace_apart out hne.symm⟩

end Files

/-! ### Directories of jobs -/

namespace Job

variable {env : Environment} {r : Request} {j : Job}

/-- A job with a run id has the directory of this run, in the artifacts of its output directory. Another run in
the same output directory, of whatever request, has a directory apart from it. -/
theorem artifactDir_confined (h : r.toJob env = .ok j) (hrun : j.runId = some runId) :
    ∃ dir, j.artifactDir? = some dir ∧ Files.IsRunDir j.outDir runId dir ∧
      ∀ env' r' j' other dir', Request.toJob env' r' = .ok j' → j'.outDir = j.outDir →
        j'.runId = some other → other ≠ runId → j'.artifactDir? = some dir' → dir.Apart dir' := by
  have hdir : ∀ {env r} {j : Job} {runId}, Request.toJob env r = .ok j → j.runId = some runId →
      j.artifactDir? = some (Files.artifactDir j.outDir runId) ∧
        Files.IsRunDir j.outDir runId (Files.artifactDir j.outDir runId) := by
    intro env r j runId h hrun
    refine ⟨by rw [artifactDir?, hrun, Option.map_some], ?_⟩
    exact Files.isRunDir_artifactDir (Request.outDir_of_toJob h) (isPlainName_runId h hrun)
  obtain ⟨hsome, hrunDir⟩ := hdir h hrun
  refine ⟨_, hsome, hrunDir, fun env' r' j' other dir' h' hout hrun' hne hsome' => ?_⟩
  obtain ⟨hother, hrunDir'⟩ := hdir h' hrun'
  cases hother.symm.trans hsome'
  exact hrunDir.apart (hout ▸ hrunDir') hne.symm

/-- A request for a run in an output directory that is written with more than its name. -/
def runRequest (runId : String) : Request :=
  { Request.ofUrl "app://shopee.tw/1" ⟨" ./out/ "⟩ with runId := some runId }

def runJob (runId : String) : Job where
  url := "app://shopee.tw/1"
  outDir := ⟨"./out/"⟩
  tool := "codex"
  prompting := .legacy none
  runId := some runId
  model := none
  skipGitRepoCheck := false

/-- Three dots are a name, and not one of the directories above. -/
theorem artifactDir_confined_dots : ∃ dir, (runJob "...").artifactDir? = some dir ∧
    dir.components = [.here, .name "out", .name "artifacts", .name "..."] ∧
    dir.Apart (Files.artifactDir ⟨"./out/"⟩ "...-2") := by
  have hjob : (runRequest " ...\n").toJob (fun _ => none) = .ok (runJob "...") := by decide +kernel
  have hother : (runRequest "...-2").toJob (fun _ => none) = .ok (runJob "...-2") := by decide +kernel
  obtain ⟨dir, hdir, hrunDir, hapart⟩ := artifactDir_confined hjob rfl
  refine ⟨dir, hdir, ?_, hapart _ _ _ _ _ hother rfl rfl (by decide) rfl⟩
  rw [hrunDir.components]
  decide

end Job

end ListingCrawl
