import ListingCrawl.Proofs.Files.Place

/-! Writing and renaming files. Where a file goes does not depend on what is written, and neither does
whether it can be written at all. What was written is read back from its path. -/

namespace ListingCrawl.FileTree

variable {t t' : FileTree} {l m dir : Location} {p : Path} {c : Octets}

/-- The place of a file that is written to a path. -/
def filePlace (t : FileTree) (p : Path) : Except FileError Location := do
  let l ← t.locateNew p
  if t.isDirectoryAt l then throw .isDirectory
  return l

theorem write_eq (t : FileTree) (p : Path) (c : Octets) :
    t.write p c = (t.filePlace p).map fun l => t.set l (.file c) := by
  unfold write filePlace
  cases t.locateNew p with
  | error e => rfl
  | ok l =>
    simp only [bind, Except.bind]
    split <;> rfl

theorem rename_eq {old new : Path} (hold : t.locate old = .ok l) (hfile : t.entry? l = some (.file c)) :
    t.rename old new = (t.filePlace new).map fun m => (t.remove l).set m (.file c) := by
  unfold rename filePlace
  rw [hold]
  simp only [bind, Except.bind]
  cases t.locateNew new with
  | error e => rfl
  | ok m =>
    simp only [hfile]
    split <;> rfl

theorem filePlace_eq_ok : t.filePlace p = .ok l ↔
    t.locateNew p = .ok l ∧ t.entry? l ≠ some .directory := by
  unfold filePlace
  rw [bind_eq_ok]
  constructor
  · rintro ⟨place, hplace, h⟩
    split at h
    · cases h
    · next hfree =>
      cases h
      exact ⟨hplace, fun hdir => hfree (isDirectoryAt_iff.mpr hdir)⟩
  · rintro ⟨hplace, hfree⟩
    refine ⟨l, hplace, ?_⟩
    rw [if_neg fun hdir => hfree (isDirectoryAt_iff.mp hdir)]
    rfl

/-- The place of a file of this name in a directory. -/
structure Slot (t : FileTree) (p : Path) (n : String) (dir : Location) : Prop where
  leads : t.locate p = .ok dir
  directory : t.entry? dir = some .directory
  size : n.utf8ByteSize ≤ maxName
  free : t.entry? (dir ++ [n]) ≠ some .directory

theorem filePlace_join {n : String} (hp : p.text ≠ "") (hn : IsPlainName n) :
    t.filePlace (p.join ⟨n⟩) = .ok l ↔ ∃ dir, t.Slot p n dir ∧ l = dir ++ [n] := by
  rw [filePlace_eq_ok, locateNew_join hp hn, locate_join_eq_ok hp hn]
  constructor
  · rintro ⟨⟨dir, hleads, hdir, hsize, rfl⟩, hfree⟩
    exact ⟨dir, ⟨hleads, hdir, hsize, hfree⟩, rfl⟩
  · rintro ⟨dir, ⟨hleads, hdir, hsize, hfree⟩, rfl⟩
    exact ⟨⟨dir, hleads, hdir, hsize, rfl⟩, hfree⟩

theorem SameShape.filePlace_join (h : SameShape t t') {n : String} (hp : p.text ≠ "")
    (hn : IsPlainName n) : t'.filePlace (p.join ⟨n⟩) = t.filePlace (p.join ⟨n⟩) := by
  simp only [filePlace, locateNew_join hp hn, h.locate_eq, h.isDirectoryAt_eq]

theorem SameShape.slot (h : SameShape t t') {n : String} (hslot : t.Slot p n dir) : t'.Slot p n dir where
  leads := (h.locate_eq p).trans hslot.leads
  directory := by
    rw [← isDirectoryAt_iff, h.isDirectoryAt_eq, isDirectoryAt_iff]
    exact hslot.directory
  size := hslot.size
  free hdir := by
    rw [← isDirectoryAt_iff, h.isDirectoryAt_eq, isDirectoryAt_iff] at hdir
    exact hslot.free hdir

/-! ### After writing -/

theorem ne_root_of_ne_directory (h : t.entry? l ≠ some .directory) : l ≠ [] := by
  rintro rfl
  exact h rfl

theorem entry?_set_file (h : t.entry? l ≠ some .directory) (c : Octets) :
    FileTree.entry? (t.set l (.file c)) l = some (.file c) :=
  entry?_set_self (ne_root_of_ne_directory h)

/-- Putting a file where there is no directory keeps all directories. -/
theorem directory_set (hl : t.entry? l ≠ some .directory) (hm : t.entry? m = some .directory) :
    FileTree.entry? (t.set l (.file c)) m = some .directory := by
  have hne : m ≠ l := fun h => hl (h ▸ hm)
  rw [entry?_set_of_ne hne, hm]

variable {n : String}

theorem Slot.leads_set (h : t.Slot p n dir) (c : Octets) :
    (t.set (dir ++ [n]) (.file c)).locate p = .ok dir :=
  locate_kept (t := t) rfl (follow_kept fun _ _ _ _ => directory_set h.free) h.leads

/-- The path of a file that was written leads to it. -/
theorem Slot.locate_set (h : t.Slot p n dir) (hp : p.text ≠ "") (hn : IsPlainName n) (c : Octets) :
    (t.set (dir ++ [n]) (.file c)).locate (p.join ⟨n⟩) = .ok (dir ++ [n]) :=
  (locate_join_eq_ok hp hn).mpr ⟨dir, h.leads_set c, directory_set h.free h.directory, h.size, rfl⟩

/-- The directory of a file that was moved into it is where it was. -/
theorem Slot.directory_moved (h : t.Slot p n dir) (hl : t.entry? l ≠ some .directory)
    (hout : ¬ l <+: dir) (c : Octets) :
    ((t.remove l).set (dir ++ [n]) (.file c)).locate p = .ok dir ∧
      FileTree.entry? ((t.remove l).set (dir ++ [n]) (.file c)) dir = some .directory := by
  have hfree : FileTree.entry? (t.remove l) (dir ++ [n]) ≠ some .directory := by
    by_cases hwithin : l <+: dir ++ [n]
    · rw [entry?_remove_within (ne_root_of_ne_directory hl) hwithin]
      exact nofun
    · rw [entry?_remove_outside hwithin]
      exact h.free
  have hkept : ∀ m, ¬ l <+: m → t.entry? m = some .directory →
      FileTree.entry? ((t.remove l).set (dir ++ [n]) (.file c)) m = some .directory :=
    fun m hm hdir => directory_set hfree ((entry?_remove_outside hm).trans hdir)
  exact ⟨locate_kept (t := t) rfl (follow_kept_outside hl hkept hout) h.leads,
    hkept dir hout h.directory⟩

/-- A file that was moved into a directory is read from its path there. -/
theorem Slot.read_moved (h : t.Slot p n dir) (hp : p.text ≠ "") (hn : IsPlainName n)
    (hl : t.entry? l ≠ some .directory) (hout : ¬ l <+: dir) (c : Octets) :
    ((t.remove l).set (dir ++ [n]) (.file c)).read (p.join ⟨n⟩) = .ok c := by
  obtain ⟨hleads, hdir⟩ := h.directory_moved hl hout c
  have hplace := (locate_join_eq_ok hp hn).mpr ⟨dir, hleads, hdir, h.size, rfl⟩
  have hentry := entry?_set_self (t := t.remove l) (e := .file c) (ne_root_of_ne_directory h.free)
  simp only [read, stat, hplace, bind, Except.bind, hentry]

end ListingCrawl.FileTree
