import ListingCrawl.Proofs.Files.Place

/-! Paths by their components. A relative path that is put behind another adds its components to it, but for
`.`; so what stands in a directory is named by one component more. -/

namespace ListingCrawl

namespace Path

variable {p q : Path}

theorem pieceComponent?_ne_here (piece : List Char) : pieceComponent? piece ≠ some .here := by
  unfold pieceComponent?
  split_ifs <;> simp

/-- The components of a path but `.`, which count wherever the path stands. -/
def parts (p : Path) : List Component :=
  p.components.filter (· ≠ .here)

/-- Only a piece at the start of a path stands for the directory itself. -/
theorem parts_eq (p : Path) : p.parts = (if p.isAbsolute then [.root] else []) ++
    (pieces p.text.toList).filterMap pieceComponent? := by
  have hpieces : ((pieces p.text.toList).filterMap pieceComponent?).filter (· ≠ .here) =
      (pieces p.text.toList).filterMap pieceComponent? := by
    refine List.filter_eq_self.mpr fun c hc => ?_
    obtain ⟨piece, -, hpiece⟩ := List.mem_filterMap.mp hc
    have hne : c ≠ .here := by
      rintro rfl
      exact pieceComponent?_ne_here piece hpiece
    simpa using hne
  simp only [parts, components, List.filter_append, hpieces]
  split_ifs <;> simp

theorem components_filter (hp : p.isAbsolute = false) :
    p.components.filter (· ≠ .here) = (pieces p.text.toList).filterMap pieceComponent? := by
  have h := p.parts_eq
  rwa [hp, if_neg Bool.false_ne_true, List.nil_append] at h

theorem components_join (hp : p.text ≠ "") (hq : q.isAbsolute = false) :
    (p.join q).components = p.components ++ q.components.filter (· ≠ .here) := by
  obtain ⟨front, hpieces, hne, hfront⟩ := pieces_join hp hq
  have hhead : (front ++ pieces q.text.toList).head? = (pieces p.text.toList).head? := by
    obtain h | h := hfront <;> rw [h]
    · exact List.head?_append_of_ne_nil _ hne
    · rw [List.head?_append_of_ne_nil _ hne, List.head?_append_of_ne_nil _ hne]
  have hparts : front.filterMap pieceComponent? = (pieces p.text.toList).filterMap pieceComponent? := by
    obtain h | h := hfront <;> rw [h]
    rw [List.filterMap_append]
    simp [pieceComponent?]
  rw [components_filter hq, components, isAbsolute_join hp hq, hpieces]
  simp only [hhead, List.filterMap_append, hparts, components, List.append_assoc]

theorem parts_join (hp : p.text ≠ "") (hq : q.isAbsolute = false) :
    (p.join q).parts = p.parts ++ q.parts := by
  rw [parts, components_join hp hq, List.filter_append, List.filter_filter]
  simp only [Bool.and_self, parts]

/-- An absolute path has no `.` that counts. -/
theorem parts_of_isAbsolute (hp : p.isAbsolute = true) : p.parts = p.components := by
  rw [parts_eq, components, hp]
  rfl

/-! ### Children -/

/-- The path names something in the directory itself. -/
def IsChildOf (p dir : Path) : Prop :=
  ∃ name, p.components = dir.components ++ [.name name]

/-- The path is relative and one name, however `.` and separators stand around it. -/
def IsOneName (p : Path) : Prop :=
  p.isAbsolute = false ∧ ∃ name, p.components.filter (· ≠ .here) = [.name name]

/-- What stands behind a directory is in it if it is one name. -/
theorem isChildOf_join_iff (hp : p.text ≠ "") (hq : q.isAbsolute = false) :
    (p.join q).IsChildOf p ↔ q.IsOneName := by
  rw [IsChildOf, components_join hp hq, IsOneName]
  simp only [List.append_cancel_left_eq, hq, true_and]

theorem join_of_isAbsolute (p : Path) (hq : q.isAbsolute = true) : p.join q = q := by
  rw [join, if_pos hq]

theorem parts_name {n : String} (hn : IsPlainName n) : (⟨n⟩ : Path).parts = [.name n] := by
  have hempty : n.toList ≠ [] := by simpa using hn.ne_empty
  have hhere : n.toList ≠ ['.'] := fun h => hn.ne_here (String.toList_inj.mp h)
  have hup : n.toList ≠ ['.', '.'] := fun h => hn.ne_up (String.toList_inj.mp h)
  rw [parts, components_filter (isAbsolute_name hn), pieces_of_not_mem hn.slash]
  simp [pieceComponent?, hempty, hhere, hup]

theorem isOneName_of_isPlainName {n : String} (hn : IsPlainName n) : (⟨n⟩ : Path).IsOneName :=
  ⟨isAbsolute_name hn, n, parts_name hn⟩

/-- A name behind a path is one component more. -/
theorem components_join_name (hp : p.text ≠ "") {n : String} (hn : IsPlainName n) :
    (p.join ⟨n⟩).components = p.components ++ [.name n] := by
  rw [components_join hp (isAbsolute_name hn)]
  exact congrArg (p.components ++ ·) (parts_name hn)

end Path

end ListingCrawl
