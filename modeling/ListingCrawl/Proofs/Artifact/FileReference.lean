import ListingCrawl.Artifact.Pointer
import ListingCrawl.Proofs.Files.Clean
import ListingCrawl.Proofs.Text.Trim

/-! The files that a pointer names. A name is looked for in the directory of the pointer, and may just as well
be written with this directory in front of it: both are the same path. -/

namespace ListingCrawl

namespace Path

variable {p q : Path}

/-- What is put behind a path is trimmed with it. -/
theorem isTrimmed_join (hp : Text.IsTrimmed p.text) (hq : Text.IsTrimmed q.text)
    (hrelative : q.isAbsolute = false) : Text.IsTrimmed (p.join q).text := by
  obtain h | h := text_join p hrelative
  · have happend := hp.append "" hq
    rwa [String.append_empty, ← h] at happend
  · exact h ▸ hp.append "/" hq

end Path

namespace Artifact.SnapshotPointer

variable {p : SnapshotPointer} {name : String} {dir file : Path}

/-- An absolute name is a path of its own. -/
theorem filePath?_absolute (hname : Text.trimmed? name = some file.text)
    (habsolute : file.isAbsolute = true) : p.filePath? name = some file := by
  simp only [filePath?, hname, Option.map_some, if_pos habsolute]

/-- A relative name is put behind the directory, unless it starts with it. -/
theorem filePath?_relative (hdir : Text.trimmed? p.artifactDir = some dir.text)
    (hname : Text.trimmed? name = some file.text) (hrelative : file.isAbsolute = false) :
    ∃ place, p.filePath? name = some place ∧
      (dir.parts <+: file.parts → place.components = file.parts) ∧
      (¬dir.parts <+: file.parts → place.components = dir.parts ++ file.parts) := by
  have hstarts : file.clean.startsWith dir.clean = true ↔ dir.parts <+: file.parts := by
    rw [Path.startsWith, List.isPrefixOf_iff_prefix, Path.components_clean, Path.components_clean]
  simp only [filePath?, hname, hdir, Option.map_some, hrelative, Bool.false_eq_true, if_false]
  by_cases hprefix : dir.parts <+: file.parts
  · rw [if_pos (hstarts.mpr hprefix)]
    exact ⟨_, rfl, fun _ => file.components_clean, fun hno => absurd hprefix hno⟩
  · rw [if_neg fun h => hprefix (hstarts.mp h)]
    refine ⟨_, rfl, fun hyes => absurd hyes hprefix, fun _ => ?_⟩
    -- a directory of which nothing is left would be in front of every path
    have hne : dir.clean.text ≠ "" := by
      intro hempty
      have hclean : dir.clean = ⟨""⟩ := congrArg Path.mk hempty
      rw [← dir.components_clean, hclean] at hprefix
      exact hprefix List.nil_prefix
    rw [Path.components_join hne (by rw [Path.isAbsolute_clean, hrelative]), Path.components_clean]
    exact congrArg _ file.parts_clean

/-- A relative name leads into the directory of the pointer, which is put in front of it once: not at all if
the name starts with it already. With the directory written in front of it, the name is that of the same
path, whatever separators and `.` the two texts have. -/
theorem filePath_spellings (hdir : Text.trimmed? p.artifactDir = some dir.text)
    (hname : Text.trimmed? name = some file.text) (hrelative : file.isAbsolute = false) :
    ∃ place, p.filePath? name = some place ∧ dir.parts <+: place.components ∧
      (dir.parts <+: file.parts → place.components = file.parts) ∧
      (¬dir.parts <+: file.parts → place.components = dir.parts ++ file.parts ∧
        ∃ same, p.filePath? (dir.join file).text = some same ∧ same.components = place.components) := by
  obtain ⟨place, hplace, hinside, houtside⟩ := filePath?_relative hdir hname hrelative
  refine ⟨place, hplace, ?_, hinside, fun hprefix => ⟨houtside hprefix, ?_⟩⟩
  · by_cases hprefix : dir.parts <+: file.parts
    · exact hinside hprefix ▸ hprefix
    · exact houtside hprefix ▸ List.prefix_append _ _
  · have htrimmed := Text.isTrimmed_of_trimmed? hdir
    have hjoin := (Path.isTrimmed_join htrimmed (Text.isTrimmed_of_trimmed? hname) hrelative).trimmed?_eq
    have hparts := Path.parts_join htrimmed.ne_empty hrelative
    have hsame := Path.isAbsolute_join htrimmed.ne_empty hrelative
    rw [houtside hprefix]
    cases habsolute : dir.isAbsolute with
    | true =>
      rw [habsolute] at hsame
      exact ⟨_, filePath?_absolute hjoin hsame, (Path.parts_of_isAbsolute hsame).symm.trans hparts⟩
    | false =>
      rw [habsolute] at hsame
      obtain ⟨same, hfound, hwhole, -⟩ := filePath?_relative hdir hjoin hsame
      exact ⟨same, hfound, (hwhole (hparts ▸ List.prefix_append _ _)).trans hparts⟩

/-- A pointer to files in a directory. -/
def inDirectory (dir : String) : SnapshotPointer :=
  ⟨"u", "ok", "", "", dir, ⟨"", "", "", "", "", ""⟩, "", ""⟩

theorem filePath_spellings_untidy : ∃ place,
    (inDirectory "./out//run/ ").filePath? " pages/./state.json" = some place ∧
    place.components = [.name "out", .name "run", .name "pages", .name "state.json"] ∧
    ∃ same, (inDirectory "./out//run/ ").filePath? "./out//run/pages/./state.json" = some same ∧
      same.components = place.components := by
  have hdir : Text.trimmed? (inDirectory "./out//run/ ").artifactDir = some (Path.mk "./out//run/").text := by
    decide
  have hname : Text.trimmed? " pages/./state.json" = some (Path.mk "pages/./state.json").text := by decide
  obtain ⟨place, hplace, -, -, hspelled⟩ := filePath_spellings hdir hname (by decide)
  obtain ⟨hcomponents, hsame⟩ := hspelled (by decide)
  exact ⟨place, hplace, hcomponents, hsame⟩

end Artifact.SnapshotPointer

end ListingCrawl
