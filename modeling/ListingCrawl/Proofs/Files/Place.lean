import Mathlib.Data.List.DropRight
import ListingCrawl.Proofs.Except
import ListingCrawl.Proofs.Files.Tree

/-! The place that a path with one more name at its end leads to. A name that is a whole part of a path and
neither `.` nor `..` is looked for where the path before it leads, and a new entry of that name takes its
place there. -/

namespace ListingCrawl

/-- A name that can be a part of a path and stands for itself. -/
structure IsPlainName (n : String) : Prop where
  ne_empty : n ≠ ""
  ne_here : n ≠ "."
  ne_up : n ≠ ".."
  slash : '/' ∉ n.toList
  nul : '\x00' ∉ n.toList

namespace Path

/-! ### Parts -/

theorem pieces_ne_nil (cs : List Char) : pieces cs ≠ [] :=
  List.splitOn_ne_nil '/' cs

theorem pieces_slash (a b : List Char) : pieces (a ++ '/' :: b) = pieces a ++ pieces b :=
  List.splitOn_append_cons_self a b

theorem pieces_of_not_mem {cs : List Char} (h : '/' ∉ cs) : pieces cs = [cs] :=
  List.splitOn_eq_singleton h

theorem pieces_cons (c : Char) (cs : List Char) : pieces (c :: cs) =
    if c = '/' then [] :: pieces cs else (pieces cs).modifyHead (c :: ·) := by
  rw [pieces, List.splitOn_cons_eq_if_modifyHead]
  simp only [beq_iff_eq, pieces]

theorem isAbsolute_name {n : String} (hn : IsPlainName n) : isAbsolute ⟨n⟩ = false := by
  rw [isAbsolute, beq_eq_false_iff_ne]
  intro h
  exact hn.slash (List.mem_of_mem_head? h)

/-- The names that a path stands for. -/
def names (p : Path) : List String :=
  (pieces p.text.toList).map String.ofList

/-- The pieces of a path with another one behind it; a separator that was there already is not doubled. -/
theorem pieces_join {p q : Path} (hp : p.text ≠ "") (hq : q.isAbsolute = false) :
    ∃ front, pieces (p.join q).text.toList = front ++ pieces q.text.toList ∧ front ≠ [] ∧
      (pieces p.text.toList = front ∨ pieces p.text.toList = front ++ [[]]) := by
  unfold join
  simp only [hq, Bool.false_eq_true, if_false]
  split
  · next hend =>
    have hlast : p.text.toList.getLast? = some '/' := by simpa [hp] using hend
    obtain ⟨front, hfront⟩ := List.getLast?_eq_some_iff.mp hlast
    refine ⟨pieces front, ?_, pieces_ne_nil _, .inr ?_⟩
    · simp [hfront, pieces_slash]
    · rw [hfront, pieces_slash, pieces_of_not_mem List.not_mem_nil]
  · refine ⟨pieces p.text.toList, ?_, pieces_ne_nil _, .inl rfl⟩
    simp [pieces_slash]

theorem isAbsolute_join {p q : Path} (hp : p.text ≠ "") (hq : q.isAbsolute = false) :
    (p.join q).isAbsolute = p.isAbsolute := by
  have hnonempty : p.text.toList ≠ [] := by simpa using hp
  unfold join
  simp only [hq, Bool.false_eq_true, if_false]
  split <;> simp [isAbsolute, List.head?_append_of_ne_nil _ hnonempty]

/-- A path with one more name behind it has this name last. -/
theorem names_join {p : Path} (hp : p.text ≠ "") {n : String} (hn : IsPlainName n) :
    ∃ front, (p.join ⟨n⟩).names = front ++ [n] ∧ (p.names = front ∨ p.names = front ++ [""]) := by
  obtain ⟨front, hpieces, -, hfront⟩ := pieces_join hp (isAbsolute_name hn)
  refine ⟨front.map String.ofList, ?_, hfront.imp (fun h => ?_) fun h => ?_⟩
  · rw [names, hpieces, pieces_of_not_mem hn.slash]
    simp
  · rw [names, h]
  · rw [names, h]
    simp

theorem text_join (p : Path) {q : Path} (hq : q.isAbsolute = false) :
    (p.join q).text = p.text ++ q.text ∨ (p.join q).text = p.text ++ "/" ++ q.text := by
  unfold join
  rw [hq]
  simp only [Bool.false_eq_true, if_false]
  split
  · exact .inl rfl
  · exact .inr rfl

theorem text_join_ne_empty {p : Path} (hp : p.text ≠ "") {n : String} (hn : IsPlainName n) :
    (p.join ⟨n⟩).text ≠ "" := by
  obtain h | h := text_join p (isAbsolute_name hn) <;> simp [h, hp]

theorem nul_join {p : Path} {n : String} (hn : IsPlainName n) :
    (p.join ⟨n⟩).text.toList.contains '\x00' = p.text.toList.contains '\x00' := by
  have hnul : n.toList.contains '\x00' = false := by simpa using hn.nul
  obtain h | h := text_join p (isAbsolute_name hn) <;> simp [h, hn.nul]

end Path

namespace FileTree

variable {t t' : FileTree} {l start dir : Location} {p : Path} {n : String}

/-! ### Finding -/

/-- Where a path starts. -/
def origin (t : FileTree) (p : Path) : Location :=
  if p.isAbsolute then [] else t.workDir

theorem locate_eq (t : FileTree) (p : Path) : t.locate p =
    if p.text.toList.contains '\x00' then .error .nulInName
    else if p.text = "" then .error .notFound
    else t.follow (t.origin p) p.names := rfl

/-- A path leads to the same place in a tree that keeps its way open. -/
theorem locate_kept (hworkDir : t'.workDir = t.workDir)
    (hway : t.follow (t.origin p) p.names = .ok l → t'.follow (t.origin p) p.names = .ok l)
    (h : t.locate p = .ok l) : t'.locate p = .ok l := by
  rw [locate_eq] at h ⊢
  split_ifs at h ⊢
  rw [origin, hworkDir]
  exact hway h

theorem follow_singleton (hn : IsPlainName n) (hdir : t.entry? dir = some .directory)
    (hsize : n.utf8ByteSize ≤ maxName) : t.follow dir [n] = .ok (dir ++ [n]) := by
  simp only [follow, hdir, hn.ne_empty, hn.ne_here, hn.ne_up, Nat.not_lt.mpr hsize, or_self, if_false]

/-- An empty name changes nothing, wherever more is to follow. -/
theorem follow_empty_cons (n : String) : t.follow start ["", n] = t.follow start [n] := by
  rw [follow]
  split <;> next h => simp [follow, h]

/-- One more name is looked for where the path before it leads. -/
theorem locate_join (hp : p.text ≠ "") (hn : IsPlainName n) :
    t.locate (p.join ⟨n⟩) = (t.locate p).bind fun l => t.follow l [n] := by
  obtain ⟨front, hjoin, hnames⟩ := Path.names_join hp hn
  rw [locate_eq, locate_eq, Path.nul_join hn, if_neg (Path.text_join_ne_empty hp hn), if_neg hp]
  split
  · rfl
  · have horigin : t.origin (p.join ⟨n⟩) = t.origin p := by
      rw [origin, Path.isAbsolute_join hp (Path.isAbsolute_name hn), origin]
    rw [hjoin, horigin]
    obtain h | h := hnames
    · rw [h, follow_append]
    · rw [h, ← follow_append, List.append_assoc, follow_append, follow_append]
      congr 1
      funext l
      exact (follow_empty_cons n).symm

theorem locate_join_eq_ok (hp : p.text ≠ "") (hn : IsPlainName n) :
    t.locate (p.join ⟨n⟩) = .ok l ↔ ∃ dir, t.locate p = .ok dir ∧ t.entry? dir = some .directory ∧
      n.utf8ByteSize ≤ maxName ∧ l = dir ++ [n] := by
  rw [locate_join hp hn]
  change t.locate p >>= _ = _ ↔ _
  rw [bind_eq_ok]
  refine exists_congr fun dir => and_congr_right fun _ => ?_
  constructor
  · intro h
    have hdir := directory_of_follow h
    simp only [follow, hdir, hn.ne_empty, hn.ne_here, hn.ne_up, or_self, if_false] at h
    split at h
    · cases h
    · next hsize =>
      cases h
      exact ⟨hdir, Nat.not_lt.mp hsize, rfl⟩
  · rintro ⟨hdir, hsize, rfl⟩
    exact follow_singleton hn hdir hsize

/-! ### Places for new entries -/

/-- The place that an entry of this name takes in a directory. -/
def placeIn (t : FileTree) (dir : Location) (last : String) : Except FileError Location :=
  match t.entry? dir with
  | none => .error .notFound
  | some (.file _) => .error .notDirectory
  | some .directory =>
    if last = "." then .ok dir
    else if last = ".." then .ok dir.dropLast
    else if last.utf8ByteSize > maxName then .error .nameTooLong
    else .ok (dir ++ [last])

theorem placeIn_eq_follow {last : String} (h : last ≠ "") : t.placeIn dir last = t.follow dir [last] := by
  rw [placeIn, follow]
  cases t.entry? dir with
  | none => rfl
  | some e => cases e <;> simp only [h, false_or, follow]

theorem locateNew_eq (t : FileTree) (p : Path) : t.locateNew p =
    if p.text.toList.contains '\x00' then .error .nulInName
    else
      match (p.names.rdropWhile (· = "")).getLast? with
      | none => .error (if p.isAbsolute then .alreadyExists else .notFound)
      | some last =>
        (t.follow (t.origin p) (p.names.rdropWhile (· = "")).dropLast).bind (t.placeIn · last) := by
  by_cases hnul : p.text.toList.contains '\x00'
  · simp only [locateNew, hnul, if_true]
    rfl
  · simp only [locateNew, hnul]
    change (match (p.names.rdropWhile (· = "")).getLast? with | none => _ | some last => _) = _
    split
    · rfl
    · rfl

/-- A path that ends in a name names the same place whether or not something is there. -/
theorem locateNew_join (hp : p.text ≠ "") (hn : IsPlainName n) :
    t.locateNew (p.join ⟨n⟩) = t.locate (p.join ⟨n⟩) := by
  obtain ⟨front, hjoin, -⟩ := Path.names_join hp hn
  rw [locateNew_eq, locate_eq, if_neg (Path.text_join_ne_empty hp hn), hjoin,
    List.rdropWhile_concat_neg _ _ _ (by simpa using hn.ne_empty), List.getLast?_concat,
    List.dropLast_concat, follow_append]
  simp only [placeIn_eq_follow hn.ne_empty]

theorem follow_empties {names : List String} (hnames : ∀ n ∈ names, n = "")
    (h : t.follow start names = .ok l) : l = start := by
  induction names with
  | nil =>
    cases h
    rfl
  | cons n names ih =>
    rw [List.forall_mem_cons] at hnames
    have hdirectory := directory_of_follow h
    rw [follow, hdirectory, hnames.1] at h
    exact ih hnames.2 h

theorem follow_of_empties {names : List String} (hnames : ∀ n ∈ names, n = "")
    (hstart : t.entry? start = some .directory) : t.follow start names = .ok start := by
  induction names with
  | nil => rfl
  | cons n names ih =>
    rw [List.forall_mem_cons] at hnames
    rw [follow, hstart, hnames.1]
    exact ih hnames.2

/-- A path of empty names only leads to the root. -/
theorem isAbsolute_of_names {p : Path} (hp : p.text ≠ "") (hnames : ∀ n ∈ p.names, n = "") :
    p.isAbsolute = true := by
  cases htext : p.text.toList with
  | nil => simp_all
  | cons c cs =>
    by_cases hc : c = '/'
    · rw [Path.isAbsolute, htext, hc]
      rfl
    · rw [Path.names, htext, Path.pieces_cons, if_neg hc] at hnames
      cases hpieces : Path.pieces cs with
      | nil => exact absurd hpieces (Path.pieces_ne_nil cs)
      | cons first rest => simp [hpieces] at hnames

/-- The last name that counts, if there is one. -/
theorem names_cases (names : List String) : (∀ n ∈ names, n = "") ∨ ∃ front last empties,
    names = (front ++ [last]) ++ empties ∧ names.rdropWhile (· = "") = front ++ [last] ∧ last ≠ "" ∧
      ∀ n ∈ empties, n = "" := by
  obtain hnone | hsome := eq_or_ne (names.rdropWhile (· = "")) []
  · exact .inl (by simpa using hnone)
  · right
    have hlast := List.rdropWhile_last_not (· = "") names hsome
    have hnames := List.dropLast_concat_getLast hsome
    refine ⟨_, _, names.rtakeWhile (· = ""), ?_, hnames.symm, by simpa using hlast, fun n hn => ?_⟩
    · rw [hnames, List.rdropWhile_append_rtakeWhile]
    · simpa using List.mem_rtakeWhile_imp hn

/-- A new entry takes the place that its path leads to already, or the path is that of the root. -/
theorem locateNew_of_locate (h : t.locate p = .ok l) :
    t.locateNew p = .ok l ∨ t.locateNew p = .error .alreadyExists := by
  rw [locate_eq] at h
  split_ifs at h with hnul hp
  rw [locateNew_eq, if_neg hnul]
  obtain hempty | ⟨front, last, empties, hnames, hdrop, hlast, hempties⟩ := names_cases p.names
  · right
    have hnone : p.names.rdropWhile (· = "") = [] := by simpa using hempty
    rw [hnone, List.getLast?_nil, isAbsolute_of_names hp hempty]
    rfl
  · left
    rw [hnames, follow_append] at h
    obtain ⟨place, hplace, hrest⟩ := bind_eq_ok.mp h
    obtain rfl := follow_empties hempties hrest
    rw [hdrop, List.getLast?_concat, List.dropLast_concat, ← hplace, follow_append]
    simp only [placeIn_eq_follow hlast]

end FileTree

end ListingCrawl
