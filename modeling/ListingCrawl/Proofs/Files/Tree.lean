import Mathlib.Data.List.Basic
import ListingCrawl.Files.Tree

/-! What is found in a tree of files after a change, and which ways through the tree a change leaves open. A
way leads through directories only, so it stays open where these are kept, and what stands below something
that is no directory cannot be reached at all. -/

namespace ListingCrawl.FileTree

variable {t t' : FileTree} {l m top start : Location} {e : Entry} {names : List String}

/-! ### Entries -/

@[simp] theorem entry?_root : t.entry? [] = some .directory := rfl

theorem isDirectoryAt_iff : t.isDirectoryAt l = true ↔ t.entry? l = some .directory := by
  rw [isDirectoryAt, beq_iff_eq]

@[simp] theorem workDir_set : (t.set l e).workDir = t.workDir := rfl

@[simp] theorem workDir_remove : (t.remove l).workDir = t.workDir := rfl

theorem lookup_filter (keep : Location → Bool) (entries : List (Location × Entry)) :
    (entries.filter fun x => keep x.1).lookup m = if keep m then entries.lookup m else none := by
  induction entries with
  | nil => simp
  | cons x rest ih =>
    obtain ⟨l, e⟩ := x
    rw [List.filter_cons, List.lookup_cons]
    by_cases hl : m = l
    · subst hl
      cases hkeep : keep m <;> simp [ih, hkeep]
    · have hne : (m == l) = false := beq_false_of_ne hl
      cases keep l <;> simp [ih, List.lookup_cons, hne]

theorem entry?_set_of_ne (h : m ≠ l) : FileTree.entry? (t.set l e) m = t.entry? m := by
  have hkept := lookup_filter (m := m) (fun x => x ≠ l) t.entries
  have hne : (m == l) = false := beq_false_of_ne h
  unfold entry?
  split
  · rfl
  · rw [set, List.lookup_append, hkept]
    simp [h, hne, List.lookup_cons]

theorem entry?_set_self (hl : l ≠ []) : FileTree.entry? (t.set l e) l = some e := by
  have hkept := lookup_filter (m := l) (fun x => x ≠ l) t.entries
  rw [FileTree.entry?, if_neg hl, set, List.lookup_append, hkept]
  simp

theorem entry?_set (hl : l ≠ []) :
    FileTree.entry? (t.set l e) m = if m = l then some e else t.entry? m := by
  split
  · next h => rw [h, entry?_set_self hl]
  · next h => exact entry?_set_of_ne h

theorem isWithin_iff : isWithin top l = true ↔ top <+: l :=
  List.isPrefixOf_iff_prefix

theorem entry?_remove (hm : m ≠ []) :
    FileTree.entry? (t.remove l) m = if isWithin l m then none else t.entry? m := by
  have hkept := lookup_filter (m := m) (fun x => !isWithin l x) t.entries
  rw [FileTree.entry?, if_neg hm, remove, hkept, FileTree.entry?, if_neg hm]
  cases isWithin l m <;> rfl

theorem entry?_remove_outside (h : ¬ l <+: m) : FileTree.entry? (t.remove l) m = t.entry? m := by
  by_cases hm : m = []
  · rw [hm]
    rfl
  · rw [entry?_remove hm, if_neg (mt isWithin_iff.mp h)]

theorem entry?_remove_within (hl : l ≠ []) (h : l <+: m) : FileTree.entry? (t.remove l) m = none := by
  have hm : m ≠ [] := by
    rintro rfl
    exact hl (List.prefix_nil.mp h)
  rw [entry?_remove hm, if_pos (isWithin_iff.mpr h)]

/-! ### Following names -/

theorem follow_append (t : FileTree) (start : Location) (ns ms : List String) :
    t.follow start (ns ++ ms) = (t.follow start ns).bind fun l => t.follow l ms := by
  induction ns generalizing start with
  | nil => rfl
  | cons n ns ih =>
    rw [List.cons_append, follow, follow]
    split
    · rfl
    · rfl
    · split_ifs
      · exact ih start
      · exact ih start.dropLast
      · rfl
      · exact ih (start ++ [n])

/-- All names but the last lead to directories. -/
theorem directory_of_follow {n : String} (h : t.follow start (n :: names) = .ok l) :
    t.entry? start = some .directory := by
  rw [follow] at h
  split at h
  · cases h
  · cases h
  · assumption

theorem not_within_concat (l : Location) (n : String) : ¬ l ++ [n] <+: l := by
  intro h
  have hlength := h.length_le
  rw [List.length_append, List.length_singleton] at hlength
  omega

theorem prefix_dropLast {top l : Location} (h : top <+: l) (hne : top ≠ l) : top <+: l.dropLast := by
  obtain ⟨below, rfl⟩ := h
  have hbelow : below ≠ [] := by
    rintro rfl
    exact hne (List.append_nil top).symm
  rw [List.dropLast_append_of_ne_nil hbelow]
  exact List.prefix_append top _

/-- No way leads out of something that is no directory. -/
theorem follow_within (htop : t.entry? top ≠ some .directory) (hstart : top <+: start)
    (h : t.follow start names = .ok l) : top <+: l := by
  induction names generalizing start with
  | nil =>
    cases h
    exact hstart
  | cons n names ih =>
    have hdirectory := directory_of_follow h
    rw [follow, hdirectory] at h
    dsimp only at h
    split_ifs at h
    · exact ih hstart h
    · have hne : top ≠ start := fun heq => htop (heq ▸ hdirectory)
      exact ih (prefix_dropLast hstart hne) h
    · exact ih (hstart.trans (List.prefix_append start [n])) h

/-- A way stays open in a tree that keeps the directories on it. -/
theorem follow_kept (hkept : ∀ m rest, rest <:+ names → t.follow m rest = .ok l →
    t.entry? m = some .directory → t'.entry? m = some .directory)
    (h : t.follow start names = .ok l) : t'.follow start names = .ok l := by
  induction names generalizing start with
  | nil => exact h
  | cons n names ih =>
    have hdirectory := directory_of_follow h
    have hstart := hkept start (n :: names) List.suffix_rfl h hdirectory
    have hrest := fun m rest (hsuffix : rest <:+ names) => hkept m rest (hsuffix.trans (List.suffix_cons n names))
    rw [follow, hdirectory] at h
    rw [follow, hstart]
    dsimp only at h ⊢
    split_ifs at h ⊢
    · exact ih hrest h
    · exact ih hrest h
    · exact ih hrest h

/-- Outside something that is no directory, a way stays open if the directories there are kept. -/
theorem follow_kept_outside (htop : t.entry? top ≠ some .directory)
    (hkept : ∀ m, ¬ top <+: m → t.entry? m = some .directory → t'.entry? m = some .directory)
    (hl : ¬ top <+: l) (h : t.follow start names = .ok l) : t'.follow start names = .ok l :=
  follow_kept (fun m _ _ hrest => hkept m fun hwithin => hl (follow_within htop hwithin hrest)) h

/-- Without `..`, what a way leads to is below all that it leads through. -/
theorem prefix_of_follow (hup : ".." ∉ names) (h : t.follow start names = .ok l) : start <+: l := by
  induction names generalizing start with
  | nil =>
    cases h
    exact List.prefix_rfl
  | cons n names ih =>
    rw [List.mem_cons, not_or] at hup
    have hdirectory := directory_of_follow h
    rw [follow, hdirectory, if_neg (Ne.symm hup.1)] at h
    dsimp only at h
    split_ifs at h
    · exact ih hup.2 h
    · exact (List.prefix_append start [n]).trans (ih hup.2 h)

/-! ### Trees of one shape -/

/-- The trees differ at most in the contents of files. -/
structure SameShape (t t' : FileTree) : Prop where
  workDir : t'.workDir = t.workDir
  entry : ∀ l, t'.entry? l = t.entry? l ∨
    ∃ c c', t.entry? l = some (.file c) ∧ t'.entry? l = some (.file c')

theorem SameShape.follow_eq (h : SameShape t t') (start : Location) (names : List String) :
    t'.follow start names = t.follow start names := by
  induction names generalizing start with
  | nil => rfl
  | cons n names ih =>
    obtain heq | ⟨c, c', hfile, hfile'⟩ := h.entry start
    · simp only [follow, heq, ih]
    · simp only [follow, hfile, hfile']

theorem SameShape.isDirectoryAt_eq (h : SameShape t t') (l : Location) :
    t'.isDirectoryAt l = t.isDirectoryAt l := by
  obtain heq | ⟨c, c', hfile, hfile'⟩ := h.entry l
  · rw [isDirectoryAt, heq, isDirectoryAt]
  · rw [isDirectoryAt, hfile', isDirectoryAt, hfile]
    rfl

theorem SameShape.locate_eq (h : SameShape t t') (p : Path) : t'.locate p = t.locate p := by
  simp only [locate, steps, h.workDir, h.follow_eq]

theorem sameShape_set (hl : l ≠ []) (c c' : Octets) :
    SameShape (t.set l (.file c)) (t.set l (.file c')) := by
  refine ⟨rfl, fun m => ?_⟩
  rw [entry?_set hl, entry?_set hl]
  by_cases h : m = l
  · exact .inr ⟨c, c', if_pos h, if_pos h⟩
  · exact .inl (by rw [if_neg h, if_neg h])

end ListingCrawl.FileTree
