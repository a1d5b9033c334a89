import ListingCrawl.Proofs.Files.Components

/-! Cleaning a path. A path is written down from its components and taken apart again without loss, so a clean
path has the components of the path that it was made of, but for `.`. -/

namespace ListingCrawl

namespace Path

variable {p : Path} {c : Component} {cs : List Component}

/-! ### Pieces -/

theorem slash_not_mem_of_mem_pieces {text piece : List Char} (h : piece ∈ pieces text) : '/' ∉ piece := by
  induction text generalizing piece with
  | nil =>
    rw [pieces_of_not_mem List.not_mem_nil, List.mem_singleton] at h
    simp [h]
  | cons c text ih =>
    rw [pieces_cons] at h
    split at h
    · obtain rfl | h := List.mem_cons.mp h
      · simp
      · exact ih h
    · next hc =>
      cases hrest : pieces text with
      | nil => exact absurd hrest (pieces_ne_nil text)
      | cons first rest =>
        rw [hrest, List.modifyHead_cons] at h
        obtain rfl | h := List.mem_cons.mp h
        · rw [List.mem_cons, not_or]
          exact ⟨Ne.symm hc, ih (hrest ▸ List.mem_cons_self)⟩
        · exact ih (hrest ▸ List.mem_cons_of_mem _ h)

/-- Pieces that are written with separators between them are found again. -/
theorem pieces_ofPieces {ps : List (List Char)} (hne : ps ≠ []) (h : ∀ piece ∈ ps, '/' ∉ piece) :
    pieces (ofPieces ps).text.toList = ps := by
  rw [ofPieces, String.toList_ofList]
  exact List.splitOn_intercalate '/' h hne

/-- A path is absolute if nothing stands before its first separator. -/
theorem isAbsolute_iff : p.isAbsolute = true ↔ ∃ rest, rest ≠ [] ∧ pieces p.text.toList = [] :: rest := by
  rw [isAbsolute, beq_iff_eq]
  cases p.text.toList with
  | nil => simp [pieces]
  | cons c text =>
    rw [List.head?_cons, Option.some_inj, pieces_cons]
    by_cases hc : c = '/'
    · simp [hc, pieces_ne_nil]
    · cases pieces text <;> simp [hc]

/-! ### Components written down -/

/-- The component is one piece of a path, wherever in the path it stands. -/
def IsOrdinary (c : Component) : Prop :=
  pieceComponent? (Component.piece c) = some c ∧ '/' ∉ Component.piece c

theorem isOrdinary_of_mem (h : c ∈ (pieces p.text.toList).filterMap pieceComponent?) : IsOrdinary c := by
  obtain ⟨piece, hmem, hpiece⟩ := List.mem_filterMap.mp h
  have hback : Component.piece c = piece := by
    unfold pieceComponent? at hpiece
    split_ifs at hpiece with hnone hup
    · cases hpiece
      exact hup.symm
    · cases hpiece
      exact String.toList_ofList
  rw [IsOrdinary, hback]
  exact ⟨hpiece, slash_not_mem_of_mem_pieces hmem⟩

theorem IsOrdinary.piece_ne (h : IsOrdinary c) : Component.piece c ≠ [] ∧ Component.piece c ≠ ['.'] := by
  constructor <;>
  · intro hpiece
    rw [IsOrdinary, hpiece] at h
    cases h.1

theorem filterMap_piece (h : ∀ c ∈ cs, IsOrdinary c) :
    (cs.map Component.piece).filterMap pieceComponent? = cs := by
  induction cs with
  | nil => rfl
  | cons c cs ih =>
    rw [List.forall_mem_cons] at h
    rw [List.map_cons, List.filterMap_cons_some h.1.1, ih h.2]

/-- A relative path that was written down. -/
theorem ofComponents_relative (h : ∀ c ∈ cs, IsOrdinary c) :
    (ofComponents cs).isAbsolute = false ∧ (ofComponents cs).components = cs := by
  cases cs with
  | nil => exact ⟨rfl, rfl⟩
  | cons c rest =>
    have hfirst := (h c List.mem_cons_self).piece_ne
    have hwritten : ofComponents (c :: rest) = ofPieces ((c :: rest).map Component.piece) := by
      unfold ofComponents
      split
      · next heq =>
        obtain ⟨rfl, -⟩ := List.cons.inj heq
        exact absurd rfl hfirst.1
      · rfl
    have hpieces : pieces (ofComponents (c :: rest)).text.toList = (c :: rest).map Component.piece := by
      rw [hwritten]
      refine pieces_ofPieces (by simp) fun piece hpiece => ?_
      obtain ⟨c', hc', rfl⟩ := List.mem_map.mp hpiece
      exact (h c' hc').2
    have hrelative : (ofComponents (c :: rest)).isAbsolute = false := by
      rw [← Bool.not_eq_true, isAbsolute_iff, hpieces]
      rintro ⟨_, -, heq⟩
      exact hfirst.1 (List.cons.inj heq).1
    have hhead : ((c :: rest).map Component.piece).head? ≠ some ['.'] := by
      simpa using hfirst.2
    refine ⟨hrelative, ?_⟩
    rw [components, hrelative, hpieces]
    simp only [Bool.false_eq_true, if_false, if_neg hhead, List.nil_append, filterMap_piece h]

/-- An absolute path that was written down. -/
theorem ofComponents_absolute (h : ∀ c ∈ cs, IsOrdinary c) : (ofComponents (.root :: cs)).isAbsolute = true ∧
    (ofComponents (.root :: cs)).components = .root :: cs := by
  cases cs with
  | nil => exact ⟨rfl, rfl⟩
  | cons c rest =>
    have hpieces : pieces (ofComponents (.root :: c :: rest)).text.toList =
        [] :: (c :: rest).map Component.piece := by
      refine pieces_ofPieces (List.cons_ne_nil _ _) fun piece hpiece => ?_
      obtain rfl | hpiece := List.mem_cons.mp hpiece
      · simp [Component.piece]
      · obtain ⟨c', hc', rfl⟩ := List.mem_map.mp hpiece
        exact (h c' hc').2
    have habsolute : (ofComponents (.root :: c :: rest)).isAbsolute = true :=
      isAbsolute_iff.mpr ⟨_, List.cons_ne_nil _ _, hpieces⟩
    refine ⟨habsolute, ?_⟩
    have hempty : pieceComponent? [] = none := rfl
    rw [components, habsolute, hpieces, List.filterMap_cons_none hempty, filterMap_piece h]
    rfl

/-! ### Clean paths -/

theorem clean_spec (p : Path) : p.clean.isAbsolute = p.isAbsolute ∧ p.clean.components = p.parts := by
  have hordinary : ∀ c ∈ (pieces p.text.toList).filterMap pieceComponent?, IsOrdinary c :=
    fun c => isOrdinary_of_mem
  have hclean : p.clean = ofComponents p.parts := rfl
  rw [hclean, p.parts_eq]
  cases p.isAbsolute with
  | true => exact ofComponents_absolute hordinary
  | false => exact ofComponents_relative hordinary

@[simp] theorem isAbsolute_clean (p : Path) : p.clean.isAbsolute = p.isAbsolute :=
  p.clean_spec.1

@[simp] theorem components_clean (p : Path) : p.clean.components = p.parts :=
  p.clean_spec.2

@[simp] theorem parts_clean (p : Path) : p.clean.parts = p.parts := by
  rw [parts, components_clean, parts, List.filter_filter]
  simp

end Path

end ListingCrawl
