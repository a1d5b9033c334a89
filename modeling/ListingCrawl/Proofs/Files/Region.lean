import ListingCrawl.Proofs.Files.Directories

/-! Parts of a tree. Changes at and below one location do not show at another, as long as neither is below
the other. What a path finds below a directory depends on the entries there alone, if every entry is in a
directory. -/

namespace ListingCrawl

/-- The path with these names behind it. -/
def Path.below (p : Path) (names : List String) : Path :=
  names.foldl (fun p n => p.join ⟨n⟩) p

theorem Path.below_concat (p : Path) (names : List String) (n : String) :
    p.below (names ++ [n]) = (p.below names).join ⟨n⟩ := by
  rw [below, List.foldl_append]
  rfl

theorem Path.text_below {p : Path} (hp : p.text ≠ "") {names : List String}
    (hnames : ∀ n ∈ names, IsPlainName n) : (p.below names).text ≠ "" := by
  induction names generalizing p with
  | nil => exact hp
  | cons n names ih =>
    rw [List.forall_mem_cons] at hnames
    exact ih (text_join_ne_empty hp hnames.1) hnames.2

namespace FileTree

variable {t t' t'' : FileTree} {top other l m : Location} {p : Path} {names : List String} {e : Entry}

/-! ### What is found below a directory -/

theorem stat_eq_ok : t.stat p = .ok e ↔ ∃ l, t.locate p = .ok l ∧ t.entry? l = some e := by
  unfold stat
  rw [bind_eq_ok]
  refine exists_congr fun l => and_congr_right fun _ => ?_
  cases t.entry? l <;> simp

/-- In a rooted tree the way to an entry is open. -/
theorem Rooted.locate_below (hroot : t.Rooted) (hp : p.text ≠ "") (hl : t.locate p = .ok l)
    (hnames : ∀ n ∈ names, IsPlainName n) :
    (t.locate (p.below names) = .ok m ∧ t.entry? m = some e) ↔
      m = l ++ names ∧ (∀ n ∈ names, n.utf8ByteSize ≤ maxName) ∧ t.entry? m = some e := by
  induction names using List.reverseRecOn generalizing m e with
  | nil =>
    have hplace : t.locate (p.below []) = .ok m ↔ m = l ++ [] := by
      rw [List.append_nil, Path.below, List.foldl_nil, hl, Except.ok.injEq, eq_comm]
    simp [hplace]
  | append_singleton names n ih =>
    rw [List.forall_mem_append, List.forall_mem_singleton] at hnames
    rw [Path.below_concat, locate_join_eq_ok (Path.text_below hp hnames.1) hnames.2,
      List.forall_mem_append, List.forall_mem_singleton]
    constructor
    · rintro ⟨⟨dir, hdir, hdirectory, hsize, rfl⟩, he⟩
      obtain ⟨rfl, hsizes, -⟩ := (ih hnames.1).mp ⟨hdir, hdirectory⟩
      exact ⟨List.append_assoc .., ⟨hsizes, hsize⟩, he⟩
    · rintro ⟨rfl, ⟨hsizes, hsize⟩, he⟩
      rw [← List.append_assoc] at he ⊢
      have hdirectory := hroot (l ++ names) n (Option.isSome_of_mem he)
      obtain ⟨hdir, -⟩ := (ih hnames.1).mpr ⟨rfl, hsizes, hdirectory⟩
      exact ⟨⟨_, hdir, hdirectory, hsize, rfl⟩, he⟩

theorem Rooted.stat_below (hroot : t.Rooted) (hp : p.text ≠ "") (hl : t.locate p = .ok l)
    (hnames : ∀ n ∈ names, IsPlainName n) : t.stat (p.below names) = .ok e ↔
      (∀ n ∈ names, n.utf8ByteSize ≤ maxName) ∧ t.entry? (l ++ names) = some e := by
  rw [stat_eq_ok]
  constructor
  · rintro ⟨m, hm⟩
    obtain ⟨rfl, hsizes, he⟩ := (hroot.locate_below hp hl hnames).mp hm
    exact ⟨hsizes, he⟩
  · rintro ⟨hsizes, he⟩
    exact ⟨_, (hroot.locate_below hp hl hnames).mpr ⟨rfl, hsizes, he⟩⟩

/-- Trees in which a path finds the same have the same file there or none. -/
theorem exists?_congr (h : ∀ e, t'.stat p = .ok e ↔ t.stat p = .ok e) : t'.exists? p = t.exists? p := by
  unfold exists?
  cases hstat : t.stat p with
  | ok e => rw [(h e).mpr hstat]
  | error _ =>
    cases hstat' : t'.stat p with
    | ok e => rw [(h e).mp hstat'] at hstat; cases hstat
    | error _ => rfl

theorem read_congr (h : ∀ e, t'.stat p = .ok e ↔ t.stat p = .ok e) (hexists : t.exists? p = true) :
    t'.read p = t.read p := by
  unfold exists? at hexists
  cases hstat : t.stat p with
  | ok e => rw [read, read, hstat, (h e).mpr hstat]
  | error _ =>
    rw [hstat] at hexists
    cases hexists

/-! ### Changes at a location -/

/-- The trees agree at a location and below it; above it, they have files at the same places. -/
structure SameAt (top : Location) (t t' : FileTree) : Prop where
  workDir : t'.workDir = t.workDir
  below : ∀ l, top <+: l → t'.entry? l = t.entry? l
  above : ∀ l, l <+: top → ((∃ c, t'.entry? l = some (.file c)) ↔ ∃ c, t.entry? l = some (.file c))

/-- The tree is changed at a location and below it only, but that directories above it may be made. -/
structure ChangesAt (top : Location) (t t' : FileTree) : Prop where
  workDir : t'.workDir = t.workDir
  elsewhere : ∀ l, ¬ top <+: l → t'.entry? l = t.entry? l ∨
    l <+: top ∧ t.entry? l = none ∧ t'.entry? l = some .directory

theorem SameAt.refl (top : Location) (t : FileTree) : SameAt top t t :=
  ⟨rfl, fun _ _ => rfl, fun _ _ => Iff.rfl⟩

theorem ChangesAt.refl (top : Location) (t : FileTree) : ChangesAt top t t :=
  ⟨rfl, fun _ _ => .inl rfl⟩

/-- A change at one location does not show at another. -/
theorem SameAt.changesAt (h : SameAt top t t') (hchange : ChangesAt other t' t'')
    (hout : ¬ top <+: other) (hout' : ¬ other <+: top) : SameAt top t t'' where
  workDir := hchange.workDir.trans h.workDir
  below l hl := by
    have hother : ¬ other <+: l := fun hwithin =>
      (List.prefix_or_prefix_of_prefix hl hwithin).elim hout hout'
    obtain hsame | ⟨habove, -⟩ := hchange.elsewhere l hother
    · rw [hsame, h.below l hl]
    · exact absurd (hl.trans habove) hout
  above l hl := by
    have hother : ¬ other <+: l := fun hwithin => hout' (hwithin.trans hl)
    obtain hsame | ⟨-, hnone, hdirectory⟩ := hchange.elsewhere l hother
    · rw [hsame, h.above l hl]
    · rw [← h.above l hl, hnone, hdirectory]
      simp

/-- A way that goes down only stays open where nothing on it is removed. -/
theorem ChangesAt.locate (h : ChangesAt top t t') (hup : ".." ∉ p.names) (hl : t.locate p = .ok l)
    (htop : ¬ top <+: l) : t'.locate p = .ok l := by
  refine locate_kept h.workDir (follow_kept fun m rest hrest hm hdirectory => ?_) hl
  have hprefix : m <+: l := prefix_of_follow (fun hmem => hup (hrest.subset hmem)) hm
  obtain hsame | ⟨-, hnone, -⟩ := h.elsewhere m fun hwithin => htop (hwithin.trans hprefix)
  · rw [hsame, hdirectory]
  · rw [hdirectory] at hnone
    cases hnone

/-! ### Leaving a file -/

/-- Puts a file into a directory in place of what is there under its name; where there is no directory,
nothing is done. -/
def leave (t : FileTree) (dir : Location) (n : String) (c : Octets) : FileTree :=
  if t.isDirectoryAt dir then (t.remove (dir ++ [n])).set (dir ++ [n]) (.file c) else t

variable {dir : Location} {n : String} {c : Octets}

theorem entry?_leave (hdir : t.isDirectoryAt dir = true) (l : Location) :
    FileTree.entry? (t.leave dir n c) l =
      if l = dir ++ [n] then some (.file c) else if isWithin (dir ++ [n]) l then none else t.entry? l := by
  have hfile : dir ++ [n] ≠ [] := by simp
  rw [leave, if_pos hdir, entry?_set hfile]
  split
  · rfl
  · split
    · next hwithin => exact entry?_remove_within hfile (isWithin_iff.mp hwithin)
    · next hwithin => exact entry?_remove_outside (mt isWithin_iff.mpr hwithin)

theorem entry?_leave_outside (h : ¬ dir ++ [n] <+: l) :
    FileTree.entry? (t.leave dir n c) l = t.entry? l := by
  cases hdir : t.isDirectoryAt dir with
  | false => rw [leave, hdir, if_neg Bool.false_ne_true]
  | true =>
    have hne : l ≠ dir ++ [n] := fun heq => h (heq ▸ List.prefix_rfl)
    rw [entry?_leave hdir, if_neg hne, if_neg (mt isWithin_iff.mp h)]

@[simp] theorem workDir_leave : (t.leave dir n c).workDir = t.workDir := by
  unfold leave
  split <;> rfl

theorem changesAt_leave (t : FileTree) (dir : Location) (n : String) (c : Octets) :
    ChangesAt dir t (t.leave dir n c) where
  workDir := workDir_leave
  elsewhere _ hl := .inl (entry?_leave_outside fun h => hl ((List.prefix_append dir [n]).trans h))

theorem Rooted.leave (h : t.Rooted) (dir : Location) (n : String) (c : Octets) :
    (t.leave dir n c).Rooted := by
  cases hdir : t.isDirectoryAt dir with
  | false =>
    rw [FileTree.leave, hdir, if_neg Bool.false_ne_true]
    exact h
  | true =>
    intro l k hsome
    by_cases hwithin : dir ++ [n] <+: l ++ [k]
    · rw [entry?_leave hdir, isWithin_iff.mpr hwithin] at hsome
      split at hsome
      · next heq =>
        obtain rfl := List.append_inj_left' heq rfl
        rw [entry?_leave_outside (not_within_concat l n), ← isDirectoryAt_iff, hdir]
      · cases hsome
    · have hout : ¬ dir ++ [n] <+: l := fun hle => hwithin (hle.trans (List.prefix_append l [k]))
      rw [entry?_leave_outside hwithin] at hsome
      rw [entry?_leave_outside hout]
      exact h l k hsome

/-- A file that is left in a directory is there in all trees that agree on the directory. -/
theorem SameAt.leave (h : SameAt dir t t') (n : String) (c : Octets) :
    SameAt dir (t.leave dir n c) (t'.leave dir n c) where
  workDir := by rw [workDir_leave, workDir_leave, h.workDir]
  below l hl := by
    have hsame : t'.isDirectoryAt dir = t.isDirectoryAt dir := by
      rw [isDirectoryAt, h.below dir List.prefix_rfl, isDirectoryAt]
    cases hdir : t.isDirectoryAt dir with
    | false =>
      rw [FileTree.leave, hsame, hdir, FileTree.leave, hdir]
      exact h.below l hl
    | true => rw [entry?_leave (hsame.trans hdir), entry?_leave hdir, h.below l hl]
  above l hl := by
    have hout : ¬ dir ++ [n] <+: l := fun hle => not_within_concat dir n (hle.trans hl)
    rw [entry?_leave_outside hout, entry?_leave_outside hout, h.above l hl]

end FileTree

end ListingCrawl
