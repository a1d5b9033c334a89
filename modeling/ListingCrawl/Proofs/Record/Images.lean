import ListingCrawl.Proofs.Text.Trim
import ListingCrawl.Record.Images

/-! The images of a field. A field offers the texts of its items, trimmed, where anything is left of them,
and of these the first occurrences are kept. This is one pass over the texts that remembers what it has seen,
and it has only one result: no other list holds the same texts, each once, in the order in which they come
up. So a list of images is its own list, and what is put behind a list adds to it what is new. -/

namespace ListingCrawl.Images

/-! ### First occurrences -/

section Firsts

variable {texts images : List String} {s : String}

/-- Each of the texts once, in the order of their first occurrences. -/
structure FirstsOf (texts images : List String) : Prop where
  mem_iff : ∀ s, s ∈ images ↔ s ∈ texts
  ordered : images.Pairwise fun s t => texts.idxOf s < texts.idxOf t

theorem FirstsOf.nodup (h : FirstsOf texts images) : images.Nodup := by
  refine h.ordered.imp ?_
  rintro s _ hlt rfl
  exact Nat.lt_irrefl _ hlt

/-- The order leaves no choice. -/
theorem FirstsOf.unique {others : List String} (h : FirstsOf texts images) (h' : FirstsOf texts others) :
    images = others := by
  have hperm : images.Perm others := by
    rw [List.perm_ext_iff_of_nodup h.nodup h'.nodup]
    intro s
    rw [h.mem_iff, h'.mem_iff]
  exact hperm.eq_of_pairwise (fun _ _ _ _ hlt hgt => absurd hgt hlt.asymm) h.ordered h'.ordered

/-- One more text after those that have been seen. -/
def see (seen : List String) (s : String) : List String :=
  if s ∈ seen then seen else seen ++ [s]

/-- One step of the pass: a text that has been seen changes nothing, and a new one comes last. -/
theorem FirstsOf.concat (h : FirstsOf texts images) (s : String) :
    FirstsOf (texts ++ [s]) (see images s) := by
  have hidx : ∀ t ∈ images, (texts ++ [s]).idxOf t = texts.idxOf t :=
    fun t ht => List.idxOf_append_of_mem ((h.mem_iff t).mp ht)
  have hold : images.Pairwise fun t u => (texts ++ [s]).idxOf t < (texts ++ [s]).idxOf u := by
    refine h.ordered.imp_of_mem fun ht hu hlt => ?_
    rwa [hidx _ ht, hidx _ hu]
  unfold see
  split
  · next hs =>
    refine ⟨fun t => ?_, hold⟩
    have ht : t = s → t ∈ texts := by
      rintro rfl
      exact (h.mem_iff t).mp hs
    rw [h.mem_iff, List.mem_append, List.mem_singleton, or_iff_left_of_imp ht]
  · next hs =>
    -- a new text stands behind all that were there
    have hlast : (texts ++ [s]).idxOf s = texts.length := by
      rw [List.idxOf_append_of_notMem (mt (h.mem_iff s).mpr hs)]
      simp
    refine ⟨fun t => by simp [h.mem_iff], List.pairwise_append.mpr ⟨hold, List.pairwise_singleton _ _, ?_⟩⟩
    intro t ht u hu
    rw [List.mem_singleton.mp hu, hlast, hidx t ht]
    exact List.idxOf_lt_length_iff.mpr ((h.mem_iff t).mp ht)

theorem FirstsOf.append (h : FirstsOf texts images) (more : List String) :
    FirstsOf (texts ++ more) (more.foldl see images) := by
  induction more generalizing texts images with
  | nil => rwa [List.append_nil]
  | cons s more ih =>
    rw [List.append_cons, List.foldl_cons]
    exact ih (h.concat s)

theorem distinct_concat (texts : List String) (s : String) :
    distinct (texts ++ [s]) = see (distinct texts) s := by
  rw [distinct, distinct, see, List.eraseDups_append, List.removeAll]
  split
  · next hs => simp [List.mem_eraseDups.mp hs]
  · next hs => simp [mt List.mem_eraseDups.mpr hs, List.eraseDups_cons]

/-- The pass goes on from what an earlier one has seen. -/
theorem foldl_see (seen texts : List String) :
    texts.foldl see (distinct seen) = distinct (seen ++ texts) := by
  induction texts generalizing seen with
  | nil => rw [List.foldl_nil, List.append_nil]
  | cons s texts ih =>
    rw [List.foldl_cons, ← distinct_concat, ih, List.append_assoc, List.singleton_append]

theorem distinct_eq_foldl (texts : List String) : distinct texts = texts.foldl see [] :=
  (foldl_see [] texts).symm

theorem firstsOf_distinct (texts : List String) : FirstsOf texts (distinct texts) := by
  have hnil : FirstsOf [] [] := ⟨fun _ => Iff.rfl, .nil⟩
  rw [distinct_eq_foldl]
  exact hnil.append texts

theorem firstsOf_iff : FirstsOf texts images ↔ distinct texts = images := by
  constructor
  · exact (firstsOf_distinct texts).unique
  · rintro rfl
    exact firstsOf_distinct texts

theorem mem_distinct : s ∈ distinct images ↔ s ∈ images :=
  (firstsOf_distinct images).mem_iff s

theorem nodup_distinct (images : List String) : (distinct images).Nodup :=
  (firstsOf_distinct images).nodup

theorem distinct_eq_self {images : List String} (h : images.Nodup) : distinct images = images := by
  induction images with
  | nil => rfl
  | cons t images ih =>
    rw [List.nodup_cons] at h
    have hothers : images.filter (fun s => !s == t) = images := by
      refine List.filter_eq_self.mpr fun s hs => ?_
      have hne : s ≠ t := fun heq => h.1 (heq ▸ hs)
      simpa using hne
    rw [distinct, List.eraseDups_cons, hothers, ← distinct, ih h.2]

/-- What is left out may be left out before. -/
theorem distinct_filter (p : String → Bool) (images : List String) :
    distinct (images.filter p) = (distinct images).filter p := by
  induction images using List.reverseRecOn with
  | nil => rfl
  | append_singleton images s ih =>
    rw [distinct_concat, List.filter_append, see]
    by_cases hp : p s = true
    · have hone : [s].filter p = [s] := by simp [hp]
      rw [hone, distinct_concat, ih, see]
      split_ifs with hkept hold hold
      · rfl
      · exact absurd (List.mem_filter.mp hkept).1 hold
      · exact absurd (List.mem_filter.mpr ⟨hold, hp⟩) hkept
      · rw [List.filter_append, hone]
    · have hnone : [s].filter p = [] := by simp [hp]
      rw [hnone, List.append_nil, ih]
      split_ifs
      · rfl
      · rw [List.filter_append, hnone, List.append_nil]

theorem distinct_append (a b : List String) :
    distinct (a ++ b) = distinct a ++ (distinct b).filter (· ∉ distinct a) := by
  have hnew : b.removeAll a = b.filter (· ∉ distinct a) := by
    refine List.filter_congr fun s _ => ?_
    simp [mem_distinct]
  rw [← distinct_filter, ← hnew]
  exact List.eraseDups_append

end Firsts

/-! ### Texts -/

/-- The value is a text, and this is left of it when it is trimmed. -/
def IsText (v : Json) (t : String) : Prop :=
  ∃ s, v = .string s ∧ Text.trim s = t ∧ t ≠ ""

/-- The trimmed text of a value. -/
def text? (v : Json) : Option String :=
  v.text?.bind Text.trimmed?

theorem ofJson_eq (v : Json) : ofJson v = distinct ((items v).filterMap text?) := rfl

/-- The texts of a list of values, in order; a value that is no text, or a blank one, has none. -/
inductive Texts : List Json → List String → Prop
  | nil : Texts [] []
  | text {v : Json} {t : String} {values : List Json} {texts : List String} : IsText v t →
      Texts values texts → Texts (v :: values) (t :: texts)
  | skipped {v : Json} {values : List Json} {texts : List String} : (∀ t, ¬IsText v t) →
      Texts values texts → Texts (v :: values) texts

/-- What a field offers: the texts of a list, or one text; any other value offers nothing. -/
inductive Offers : Json → List String → Prop
  | list {values : List Json} {texts : List String} : Texts values texts → Offers (.array values) texts
  | single {s : String} {texts : List String} : Texts [.string s] texts → Offers (.string s) texts
  | nothing {v : Json} : (∀ values, v ≠ .array values) → (∀ s, v ≠ .string s) → Offers v []

section Texts

variable {values : List Json} {texts : List String} {v : Json} {t : String}

theorem isText_iff : IsText v t ↔ text? v = some t := by
  cases v with
  | string s =>
    rw [text?, Json.text?, Option.bind_some, Text.trimmed?_eq_some_iff, Text.isBlankText, beq_eq_false_iff_ne]
    constructor
    · rintro ⟨_, ⟨⟩, rfl, hne⟩
      exact ⟨hne, rfl⟩
    · rintro ⟨hne, rfl⟩
      exact ⟨s, rfl, rfl, hne⟩
  | _ => simp [IsText, text?, Json.text?]

theorem not_isText_iff : (∀ t, ¬IsText v t) ↔ text? v = none := by
  simp only [isText_iff, Option.eq_none_iff_forall_ne_some, ne_eq]

theorem Texts.filterMap_eq (h : Texts values texts) : values.filterMap text? = texts := by
  induction h with
  | nil => rfl
  | text ht _ ih => rw [List.filterMap_cons_some (isText_iff.mp ht), ih]
  | skipped hnone _ ih => rw [List.filterMap_cons_none (not_isText_iff.mp hnone), ih]

theorem texts_filterMap (values : List Json) : Texts values (values.filterMap text?) := by
  induction values with
  | nil => exact .nil
  | cons v values ih =>
    cases h : text? v with
    | none =>
      rw [List.filterMap_cons_none h]
      exact .skipped (not_isText_iff.mpr h) ih
    | some t =>
      rw [List.filterMap_cons_some h]
      exact .text (isText_iff.mpr h) ih

theorem texts_iff : Texts values texts ↔ values.filterMap text? = texts := by
  constructor
  · exact Texts.filterMap_eq
  · rintro rfl
    exact texts_filterMap values

/-- A field offers the texts of its items. -/
theorem offers_iff : Offers v texts ↔ Texts (items v) texts := by
  constructor
  · intro h
    cases h with
    | list htexts => exact htexts
    | single htexts => exact htexts
    | nothing harray hstring =>
      cases v with
      | array values => exact absurd rfl (harray values)
      | string s => exact absurd rfl (hstring s)
      | _ => exact .nil
  · intro h
    cases v with
    | array values => exact .list h
    | string s => exact .single h
    | _ =>
      cases h
      exact .nothing nofun nofun

/-- The images of a field are the first occurrences of what it offers. -/
theorem ofJson_eq_iff {images : List String} :
    ofJson v = images ↔ ∃ texts, Offers v texts ∧ FirstsOf texts images := by
  simp only [offers_iff, texts_iff, firstsOf_iff, exists_eq_left', ofJson_eq]

end Texts

/-! ### Lists of images -/

/-- Distinct texts, trimmed and not blank. -/
def Canonical (images : List String) : Prop :=
  images.Nodup ∧ ∀ s ∈ images, Text.trimmed? s = some s

theorem canonical_ofJson (v : Json) : Canonical (ofJson v) := by
  refine ⟨nodup_distinct _, fun s hs => ?_⟩
  obtain ⟨item, -, hitem⟩ := List.mem_filterMap.mp (mem_distinct.mp hs)
  obtain ⟨text, -, htext⟩ := Option.bind_eq_some_iff.mp hitem
  obtain ⟨hblank, rfl⟩ := Text.trimmed?_eq_some_iff.mp htext
  rw [Text.trimmed?_eq_some_iff, Text.isBlankText_trim, Text.trim_trim]
  exact ⟨hblank, rfl⟩

theorem filterMap_text? {images : List String} (h : ∀ s ∈ images, Text.trimmed? s = some s) :
    (images.map Json.string).filterMap text? = images := by
  rw [List.filterMap_map]
  calc images.filterMap (text? ∘ Json.string)
      = images.filterMap some := List.filterMap_congr h
    _ = images := List.filterMap_some

theorem ofJson_toJson {images : List String} (h : Canonical images) :
    ofJson (toJson images) = images := by
  rw [ofJson_eq, toJson, items, filterMap_text? h.2, distinct_eq_self h.1]

/-- Naming the first image once more in front of the list adds nothing. -/
theorem ofJson_first {first : String} {images : List String} (h : Canonical (first :: images)) :
    ofJson (.array (.string first :: (first :: images).map .string)) = first :: images := by
  have htexts : ∀ s ∈ first :: first :: images, Text.trimmed? s = some s := by
    intro s hs
    exact h.2 s (by simpa using hs)
  have hagain : (first :: first :: images).foldl see [] = (first :: images).foldl see [] := by
    simp [see]
  rw [ofJson_eq, items, ← List.map_cons, filterMap_text? htexts, distinct_eq_foldl, hagain,
    ← distinct_eq_foldl, distinct_eq_self h.1]

theorem ofJson_append (a b : List Json) : ofJson (.array (a ++ b)) =
    ofJson (.array a) ++ (ofJson (.array b)).filter (· ∉ ofJson (.array a)) := by
  rw [ofJson_eq, items, List.filterMap_append]
  exact distinct_append _ _

/-- The images of a field are determined by the texts that it offers: each of them once, none left out, in the
order in which they first occur. A list of images is its own list, and to the images of a list another one adds
those that are new, behind them. -/
theorem ofJson_laws :
    (∀ v images, ofJson v = images ↔ ∃ texts, Offers v texts ∧ FirstsOf texts images) ∧
      (∀ v, (ofJson v).Nodup ∧ ofJson (toJson (ofJson v)) = ofJson v) ∧
      ∀ a b : List Json, ofJson (.array (a ++ b)) =
        ofJson (.array a) ++ (ofJson (.array b)).filter (· ∉ ofJson (.array a)) := by
  refine ⟨fun v images => ofJson_eq_iff, fun v => ?_, ofJson_append⟩
  have hcanonical := canonical_ofJson v
  exact ⟨hcanonical.1, ofJson_toJson hcanonical⟩

/-- What is equal when it is trimmed is one image. -/
example : ofJson (.array [.string " b ", .null, .string "a", .string " ", .string "b"]) = ["b", "a"] := by
  decide

end ListingCrawl.Images
