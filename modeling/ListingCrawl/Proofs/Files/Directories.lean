import ListingCrawl.Proofs.Files.Place

/-! Making directories. Whether it succeeds or not, nothing that was there is changed and only directories
are added. If it succeeds, the path leads to a directory; if the path leads to one already, nothing is
done. -/

namespace ListingCrawl.FileTree

variable {t t' t'' : FileTree} {l : Location} {p : Path}

/-- Whatever is in the tree is in a directory. -/
def Rooted (t : FileTree) : Prop :=
  ∀ l n, (t.entry? (l ++ [n])).isSome → t.entry? l = some .directory

/-- The tree has all that another one has, and directories besides. -/
structure Grows (t t' : FileTree) : Prop where
  workDir : t'.workDir = t.workDir
  entry : ∀ l, t'.entry? l = t.entry? l ∨ t.entry? l = none ∧ t'.entry? l = some .directory

theorem Grows.refl (t : FileTree) : Grows t t :=
  ⟨rfl, fun _ => .inl rfl⟩

theorem Grows.trans (h : Grows t t') (h' : Grows t' t'') : Grows t t'' := by
  refine ⟨h'.workDir.trans h.workDir, fun l => ?_⟩
  obtain hsame | ⟨hnone, hadded⟩ := h.entry l
  · rw [← hsame]
    exact h'.entry l
  · obtain hsame' | ⟨hnone', -⟩ := h'.entry l
    · exact .inr ⟨hnone, hsame'.trans hadded⟩
    · rw [hadded] at hnone'
      cases hnone'

theorem Grows.directory (h : Grows t t') (hl : t.entry? l = some .directory) :
    t'.entry? l = some .directory := by
  obtain hsame | ⟨hnone, -⟩ := h.entry l
  · exact hsame.trans hl
  · rw [hl] at hnone
    cases hnone

/-! ### Rooted trees -/

/-- In a rooted tree a new entry is put into a directory. -/
theorem Rooted.directory_dropLast (h : t.Rooted) (hl : t.entry? l = some .directory) :
    t.entry? l.dropLast = some .directory := by
  obtain rfl | hne := eq_or_ne l []
  · exact hl
  · refine h l.dropLast (l.getLast hne) ?_
    rw [List.dropLast_concat_getLast, hl]
    rfl

theorem rooted_of_entries (h : ∀ x ∈ t.entries, t.entry? x.1.dropLast = some .directory) :
    t.Rooted := by
  intro l n hsome
  have hlookup : (t.entries.lookup (l ++ [n])).isSome := by
    simpa [FileTree.entry?] using hsome
  rw [List.lookup_isSome_iff] at hlookup
  obtain ⟨x, hx, hkey⟩ := hlookup
  have hl := h x hx
  rw [← beq_iff_eq.mp hkey, List.dropLast_concat] at hl
  exact hl

theorem Rooted.placeIn (h : t.Rooted) {dir : Location} {last : String}
    (hplace : t.placeIn dir last = .ok l) : t.entry? l.dropLast = some .directory := by
  unfold FileTree.placeIn at hplace
  split at hplace
  · cases hplace
  · cases hplace
  · next hdir =>
    split_ifs at hplace
    · cases hplace
      exact h.directory_dropLast hdir
    · cases hplace
      exact h.directory_dropLast (h.directory_dropLast hdir)
    · cases hplace
      rw [List.dropLast_concat]
      exact hdir

/-- The place of a new entry: where the names before the last one that counts lead, with this name. -/
theorem locateNew_eq_ok (h : t.locateNew p = .ok l) : ∃ front last empties dir,
    p.names = (front ++ [last]) ++ empties ∧ last ≠ "" ∧ (∀ n ∈ empties, n = "") ∧
      t.follow (t.origin p) front = .ok dir ∧ t.placeIn dir last = .ok l := by
  rw [locateNew_eq] at h
  split at h
  · cases h
  · obtain hempty | ⟨front, last, empties, hnames, hdrop, hlast, hempties⟩ := names_cases p.names
    · have hnone : p.names.rdropWhile (· = "") = [] := by simpa using hempty
      rw [hnone] at h
      cases h
    · rw [hdrop, List.getLast?_concat, List.dropLast_concat] at h
      obtain ⟨dir, hdir, hplace⟩ := bind_eq_ok.mp h
      exact ⟨front, last, empties, dir, hnames, hlast, hempties, hdir, hplace⟩

theorem locateNew_legal (h : t.locateNew p = .ok l) :
    p.text.toList.contains '\x00' = false ∧ p.text ≠ "" := by
  constructor
  · rw [locateNew_eq] at h
    split at h
    · cases h
    · next hnul => exact Bool.eq_false_iff.mpr hnul
  · intro htext
    obtain ⟨front, last, empties, dir, hnames, hlast, -⟩ := locateNew_eq_ok h
    have hone : p.names = [""] := by rw [Path.names, htext]; rfl
    have hmem : last ∈ p.names := by simp [hnames]
    rw [hone, List.mem_singleton] at hmem
    exact hlast hmem

/-- Once there is a directory at the place of a new entry, the path leads to it. -/
theorem locate_of_locateNew (hgrows : Grows t t') (h : t.locateNew p = .ok l)
    (hdir : t'.entry? l = some .directory) : t'.locate p = .ok l := by
  obtain ⟨hnul, htext⟩ := locateNew_legal h
  obtain ⟨front, last, empties, dir, hnames, hlast, hempties, hfront, hplace⟩ := locateNew_eq_ok h
  have hkept : ∀ {start m names}, t.follow start names = .ok m → t'.follow start names = .ok m :=
    follow_kept fun _ _ _ _ => hgrows.directory
  have horigin : t'.origin p = t.origin p := by rw [origin, hgrows.workDir, origin]
  rw [placeIn_eq_follow hlast] at hplace
  rw [locate_eq, hnul, if_neg Bool.false_ne_true, if_neg htext, horigin, hnames, follow_append,
    follow_append, hkept hfront]
  change (t'.follow dir [last]).bind _ = _
  rw [hkept hplace]
  exact follow_of_empties hempties hdir

theorem Rooted.set_directory (h : t.Rooted) (hl : l ≠ []) (hdir : t.entry? l.dropLast = some .directory) :
    (t.set l .directory).Rooted := by
  intro m n hsome
  rw [entry?_set hl] at hsome ⊢
  split
  · rfl
  · split at hsome
    · next heq =>
      rw [← heq, List.dropLast_concat] at hdir
      exact hdir
    · exact h m n hsome

/-! ### One directory -/

theorem makeDirectory_eq_ok : t.makeDirectory p = .ok t' ↔
    ∃ l, t.locateNew p = .ok l ∧ t.entry? l = none ∧ t' = t.set l .directory := by
  unfold makeDirectory
  rw [bind_eq_ok]
  refine exists_congr fun l => and_congr_right fun _ => ?_
  cases hl : t.entry? l with
  | none =>
    simp [pure, Except.pure, eq_comm]
  | some e => simp [throw, throwThe, MonadExceptOf.throw, bind, Except.bind]

theorem ne_root_of_none (h : t.entry? l = none) : l ≠ [] := by
  rintro rfl
  cases h

theorem grows_makeDirectory (h : t.makeDirectory p = .ok t') : Grows t t' := by
  obtain ⟨l, -, hnone, rfl⟩ := makeDirectory_eq_ok.mp h
  refine ⟨rfl, fun m => ?_⟩
  rw [entry?_set (ne_root_of_none hnone)]
  split
  · next heq => exact .inr ⟨heq ▸ hnone, rfl⟩
  · exact .inl rfl

theorem Rooted.makeDirectory (hroot : t.Rooted) (h : t.makeDirectory p = .ok t') : t'.Rooted := by
  obtain ⟨l, hplace, hnone, rfl⟩ := makeDirectory_eq_ok.mp h
  obtain ⟨_, _, _, _, _, _, _, _, hplaceIn⟩ := locateNew_eq_ok hplace
  exact hroot.set_directory (ne_root_of_none hnone) (hroot.placeIn hplaceIn)

theorem isDirectory_iff : t.isDirectory p = true ↔
    ∃ l, t.locate p = .ok l ∧ t.entry? l = some .directory := by
  unfold isDirectory stat
  cases hlocate : t.locate p with
  | error e => simp [bind, Except.bind]
  | ok l =>
    simp only [bind, Except.bind]
    cases hl : t.entry? l with
    | none => simp [hl]
    | some e => cases e <;> simp [hl]

/-- The path of a directory that was made leads to it. -/
theorem isDirectory_makeDirectory (h : t.makeDirectory p = .ok t') : t'.isDirectory p = true := by
  have hgrows := grows_makeDirectory h
  obtain ⟨l, hplace, hnone, rfl⟩ := makeDirectory_eq_ok.mp h
  have hdir := entry?_set_self (t := t) (e := .directory) (ne_root_of_none hnone)
  exact isDirectory_iff.mpr ⟨l, locate_of_locateNew hgrows hplace hdir, hdir⟩

/-! ### A whole path -/

/-- What making one directory preserves is preserved by making those above it too. -/
theorem makeDirectoriesFrom_preserves {P : FileTree → Prop}
    (hstep : ∀ {t t' : FileTree} {p : Path}, t.makeDirectory p = .ok t' → P t → P t') (fuel : Nat)
    (t : FileTree) (p : Path) (h : P t) : P (makeDirectoriesFrom fuel t p).2 := by
  induction fuel generalizing t p with
  | zero => exact h
  | succ fuel ih =>
    rw [makeDirectoriesFrom]
    split
    · exact h
    · split
      · next hmade => exact hstep hmade h
      · split
        · exact h
        · next above _ =>
          have habove := ih t above h
          split
          · next hmade =>
            rw [hmade] at habove
            exact habove
          · next hmade =>
            rw [hmade] at habove
            split
            · next hlast => exact hstep hlast habove
            · exact habove
      · exact h

theorem grows_makeDirectories (t : FileTree) (p : Path) : Grows t (t.makeDirectories p).2 :=
  makeDirectoriesFrom_preserves (P := Grows t) (fun hmade h => h.trans (grows_makeDirectory hmade)) _ t p
    (.refl t)

theorem Rooted.makeDirectories (h : t.Rooted) (p : Path) : (t.makeDirectories p).2.Rooted :=
  makeDirectoriesFrom_preserves (P := Rooted) (fun hmade h => h.makeDirectory hmade) _ t p h

/-- If making directories succeeds, the path leads to a directory. -/
theorem isDirectory_makeDirectories (hp : p.text ≠ "") (h : (t.makeDirectories p).1 = .ok ()) :
    (t.makeDirectories p).2.isDirectory p = true := by
  have hfound : ∀ {t : FileTree} {e : FileError},
      (if t.isDirectory p then .ok () else .error e : Except FileError Unit) = .ok () →
        t.isDirectory p = true := by
    intro t e h
    by_contra hnot
    rw [if_neg hnot] at h
    cases h
  unfold makeDirectories makeDirectoriesFrom at h ⊢
  rw [if_neg hp] at h ⊢
  split
  · next hmade => exact isDirectory_makeDirectory hmade
  · next hmade =>
    rw [hmade] at h
    dsimp only at h
    split
    · next hparent => simp [hparent] at h
    · next hparent =>
      simp only [hparent] at h
      split
      · next habove => simp [habove] at h
      · next habove =>
        simp only [habove] at h
        split
        · next hlast => exact isDirectory_makeDirectory hlast
        · next hlast =>
          rw [hlast] at h
          exact hfound h
  · next e hne hmade =>
    rw [hmade] at h
    split at h
    · next heq => cases heq
    · next heq => exact absurd (Except.error.inj heq) hne
    · exact hfound h

/-- Where there is a directory, none has to be made. -/
theorem makeDirectories_of_isDirectory (h : t.isDirectory p = true) :
    t.makeDirectories p = (.ok (), t) := by
  obtain ⟨l, hlocate, hdir⟩ := isDirectory_iff.mp h
  have hmade : t.makeDirectory p = .error .alreadyExists := by
    obtain hplace | hplace := locateNew_of_locate hlocate
    · simp [makeDirectory, hplace, hdir, bind, Except.bind, throw, throwThe, MonadExceptOf.throw]
    · simp [makeDirectory, hplace, bind, Except.bind]
  rw [makeDirectories, makeDirectoriesFrom, hmade]
  dsimp only
  rw [if_pos h, ite_self]

end ListingCrawl.FileTree
