import ListingCrawl.Proofs.Record.NormalForm

/-! What changes to a record keep. A rule keeps a property if the value that it puts has it whenever the one
in its place did. The rules of the canonical form put texts, lists of texts and changed variations, and so they
keep whatever is true of these. -/

namespace ListingCrawl

/-- What the rule puts in the place of a value has the property if the value has it. -/
def Rule.Keeps (P : Json → Prop) (f : Rule) : Prop :=
  ∀ o, (∀ v, o = some v → P v) → ∀ v, f o = .put v → P v

theorem Rule.Keeps.value {P : Json → Prop} {f : Rule} (hf : f.Keeps P) {o : Option Json}
    (ho : ∀ v, o = some v → P v) : ∀ v, (f o).value o = some v → P v := by
  intro v hv
  cases hrule : f o with
  | keep =>
    rw [hrule] at hv
    exact ho v hv
  | drop =>
    rw [hrule] at hv
    cases hv
  | put w =>
    rw [hrule] at hv
    cases hv
    exact hf o ho v hrule

/-! ### Members -/

namespace Fields

variable {fs : Fields} {key : String} {f : Rule} {P : String × Json → Prop}

theorem forall_mem_edit (h : ∀ m ∈ fs, P m) (hf : f.Keeps fun v => P (key, v)) :
    ∀ m ∈ fs.edit key f, P m := by
  intro m hm
  unfold edit at hm
  cases hrule : f (fs.get? key) with
  | keep =>
    rw [hrule] at hm
    exact h m hm
  | drop =>
    rw [hrule] at hm
    exact h m (List.mem_of_mem_filter hm)
  | put v =>
    rw [hrule] at hm
    obtain rfl | hm := mem_insert hm
    · exact hf (fs.get? key) (fun w hw => h _ (mem_of_get? hw)) v hrule
    · exact h m hm

theorem forall_mem_edits {rules : List (String × Rule)} (h : ∀ m ∈ fs, P m)
    (hrules : ∀ r ∈ rules, r.2.Keeps fun v => P (r.1, v)) : ∀ m ∈ fs.edits rules, P m := by
  induction rules generalizing fs with
  | nil => exact h
  | cons r rules ih =>
    obtain ⟨hr, hrules⟩ := List.forall_mem_cons.mp hrules
    exact ih (forall_mem_edit h hr) hrules

end Fields

/-! ### Rules -/

namespace Rule

variable {P : Json → Prop}

theorem keeps_always {e : Edit} (h : ∀ v, e = .put v → P v) : (always e).Keeps P :=
  fun _ _ v hv => h v hv

/-- A rule that puts nothing but texts. -/
theorem keeps_of_texts {f : Rule} (hP : ∀ s, P (.string s))
    (h : ∀ o v, f o = .put v → ∃ s, v = .string s) : f.Keeps P := by
  intro o _ v hv
  obtain ⟨s, rfl⟩ := h o v hv
  exact hP s

theorem keeps_fill (hP : ∀ s, P (.string s)) (text : String) : (fill (.string text)).Keeps P := by
  refine keeps_of_texts hP fun o v h => ?_
  unfold fill at h
  split at h <;> cases h
  all_goals exact ⟨text, rfl⟩

theorem keeps_title (hP : ∀ s, P (.string s)) : title.Keeps P := by
  refine keeps_of_texts hP fun o v h => ?_
  unfold title at h
  split at h <;> cases h
  exact ⟨_, rfl⟩

theorem keeps_currency (hP : ∀ s, P (.string s)) : currency.Keeps P := by
  refine keeps_of_texts hP fun o v h => ?_
  unfold currency at h
  split at h
  · split at h <;> cases h
    exact ⟨_, rfl⟩
  · cases h

theorem keeps_price (hP : ∀ s, P (.string s) → P (.string (Text.trim s))) : price.Keeps P := by
  intro o ho v h
  unfold price at h
  split at h
  case h_2 s =>
    cases htrim : Text.trimmed? s with
    | none =>
      rw [htrim] at h
      cases h
    | some t =>
      rw [htrim] at h
      cases h
      obtain ⟨-, rfl⟩ := Text.trimmed?_eq_some_iff.mp htrim
      exact hP s (ho _ rfl)
  all_goals cases h

theorem keeps_images (hP : ∀ images, P (Images.toJson images)) : images.Keeps P := by
  intro o _ v h
  unfold images at h
  split at h <;> cases h
  exact hP _

theorem keeps_variations (hnil : P (.array []))
    (hitems : ∀ items, P (.array items) → P (.array (items.map Variation.normalize))) :
    variations.Keeps P := by
  intro o ho v h
  unfold variations at h
  split at h
  · cases h
    exact hitems _ (ho _ rfl)
  · cases h
    exact hnil
  · cases h
    exact hnil
  · cases h

end Rule

/-! ### Variations -/

namespace Variation

variable {fs : Fields} {key : String}

/-- The canonical form of a variation as changes key by key: of the title alone, where the images are not of the
types that can be merged. -/
theorem exists_edits (fs : Fields) : ∃ rules,
    normalizeFields fs = fs.edits (("title", Rule.title) :: rules) ∧
      (rules = [] ∨ ∃ images, rules = imageRules images) := by
  unfold normalizeFields
  rw [trimTitle_eq]
  dsimp only
  split
  · exact ⟨_, setImages_eq _ _, .inr ⟨_, rfl⟩⟩
  · exact ⟨[], rfl, .inl rfl⟩

theorem forall_mem_normalizeFields {P : String × Json → Prop} (h : ∀ m ∈ fs, P m)
    (htitle : ∀ s, P ("title", .string s)) (himage : ∀ s, P ("image", .string s))
    (himages : ∀ images, P ("images", Images.toJson images)) : ∀ m ∈ normalizeFields fs, P m := by
  obtain ⟨rules, heq, hrules⟩ := exists_edits fs
  rw [heq]
  refine Fields.forall_mem_edits h (List.forall_mem_cons.mpr ⟨Rule.keeps_title htitle, ?_⟩)
  obtain rfl | ⟨images, rfl⟩ := hrules
  · simp
  · refine List.forall_mem_cons.mpr ⟨?_, List.forall_mem_singleton.mpr ?_⟩
    · refine Rule.keeps_always fun v hv => ?_
      cases images with
      | nil => cases hv
      | cons first images =>
        cases hv
        exact himage first
    · refine Rule.keeps_always fun v hv => ?_
      cases hv
      exact himages images

theorem nodup_keys_normalizeFields (h : fs.keys.Nodup) : (normalizeFields fs).keys.Nodup := by
  obtain ⟨rules, heq, -⟩ := exists_edits fs
  rw [heq]
  exact Fields.nodup_keys_edits h

/-- The title is trimmed, whatever becomes of the images. -/
theorem get?_title_normalizeFields (fs : Fields) :
    (normalizeFields fs).get? "title" = (Rule.title (fs.get? "title")).value (fs.get? "title") := by
  obtain ⟨rules, heq, hrules⟩ := exists_edits fs
  rw [heq]
  refine Fields.get?_edits_of_mem List.mem_cons_self ?_
  obtain rfl | ⟨images, rfl⟩ := hrules
  · simp
  · simp [imageRules]

theorem get?_normalizeFields (h : key ∉ ["title", "image", "images"]) (fs : Fields) :
    (normalizeFields fs).get? key = fs.get? key := by
  obtain ⟨rules, heq, hrules⟩ := exists_edits fs
  rw [heq]
  refine Fields.get?_edits_of_not_mem ?_
  obtain rfl | ⟨images, rfl⟩ := hrules
  · exact fun hmem => h (List.mem_append_left ["image", "images"] hmem)
  · exact h

end Variation

end ListingCrawl
