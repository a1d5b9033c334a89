import ListingCrawl.Proofs.Record.Conformance
import ListingCrawl.Proofs.Record.Keeps

/-! What the canonical form promises to those who read a record that keeps the contract: images are distinct
texts without blanks around them, and a variation has such a title, and the first of its images as its single
image. Variations that are written as objects are brought into this form. One that is written as the list of
its values reads as a variation just as well, but stays as it is. -/

namespace ListingCrawl

namespace Variation

/-- A title without blanks around it, a list of images, and the first of them as the single image. -/
structure Canonical (fs : Fields) : Prop where
  title : ∃ t, fs.get? "title" = some (.string t) ∧ Text.trimmed? t = some t
  images : ∃ images, Images.Canonical images ∧ fs.get? "images" = some (Images.toJson images) ∧
    fs.get? "image" = images.head?.map Json.string

/-- Of an object that reads as a sound variation nothing is missing to the canonical form. -/
theorem canonical_of_normalized {fs : Fields} {x : Variation} (hread : read (.object fs) = .ok x)
    (hsound : x.Sound) (hnormal : normalizeFields fs = fs) : Canonical fs := by
  obtain ⟨hfits, rfl⟩ := fits_of_read hread
  refine ⟨?_, hfits.images_of_normalized hnormal⟩
  obtain ⟨t, hsome, hblank⟩ := Listing.isMissing_eq_false.mp hsound.1
  have ht : fs.get? "title" = some (.string t) := Fields.text?_eq_some_iff.mp hsome
  have htrim := get?_title_normalizeFields fs
  rw [hnormal, ht] at htrim
  have heq : t = Text.trim t := Json.string.inj (Option.some.inj htrim)
  exact ⟨t, ht, Text.trimmed?_eq_some_iff.mpr ⟨hblank, heq.symm⟩⟩

/-- There are two ways to write a variation. -/
theorem object_or_array_of_read {item : Json} {x : Variation} (h : read item = .ok x) :
    (∃ fs, item = .object fs) ∨ ∃ values, item = .array values := by
  cases item with
  | object fs => exact .inl ⟨fs, rfl⟩
  | array values => exact .inr ⟨values, rfl⟩
  | _ => cases h

theorem normalize_eq_array_iff {v : Json} {values : List Json} :
    normalize v = .array values ↔ v = .array values := by
  cases v <;> simp [normalize]

end Variation

namespace Record

variable {r : Record} {now url : String}

/-- What a record lists as its variations. -/
def variationItems (r : Record) : List Json :=
  match r.get? "variations" with
  | some (.array items) => items
  | _ => []

theorem variationItems_of_get? {items : List Json} (h : r.get? "variations" = some (.array items)) :
    r.variationItems = items := by
  rw [variationItems, h]

theorem variations_ofFields (r : Record) : (Listing.ofFields r.fields).variations.getD [] =
    r.variationItems.filterMap fun v => (Variation.read v).toOption := by
  simp only [Listing.ofFields, variationItems, get?]
  rcases r.fields.get? "variations" with _ | (_ | _ | _ | _ | _ | _) <;> rfl

theorem Meets.read_variationItems (h : r.Meets) :
    ∀ item ∈ r.variationItems, ∃ x, Variation.read item = .ok x ∧ x.Sound := by
  unfold variationItems
  split
  case h_1 items hv =>
    obtain hnull | ⟨_, heq, hread⟩ := h.variations _ hv
    · cases hnull
    · cases heq
      exact hread
  case h_2 => simp

/-- A list of variations in canonical form, also where there was none. -/
theorem get?_variations_normalize (now url : String)
    (h : ∀ v, r.get? "variations" = some v → v = .null ∨ ∃ items, v = .array items) :
    (r.normalize now url).get? "variations" =
      some (.array (r.variationItems.map Variation.normalize)) := by
  have hrule : ("variations", Rule.variations) ∈ rules now url := by simp [rules]
  rw [get?_normalize_of_mem hrule, variationItems]
  cases hv : r.get? "variations" with
  | none => rfl
  | some v =>
    obtain rfl | ⟨items, rfl⟩ := h v hv <;> rfl

/-- The canonical form does not hide that the variations are of another type. -/
theorem null_or_array_of_normalize
    (h : ∀ v, (r.normalize now url).get? "variations" = some v → v = .null ∨ ∃ items, v = .array items) :
    ∀ v, r.get? "variations" = some v → v = .null ∨ ∃ items, v = .array items := by
  intro v hv
  have hkept : (r.normalize now url).get? "variations" = (Rule.variations (some v)).value (some v) := by
    rw [← hv]
    exact get?_normalize_of_mem (by simp [rules]) r
  cases v with
  | null => exact .inl rfl
  | array items => exact .inr ⟨items, rfl⟩
  -- anything else is kept, so that `h` has to do with `v` itself
  | _ => exact h _ hkept

theorem variationItems_normalize (h : (r.normalize now url).Meets) :
    (r.normalize now url).get? "variations" = some (.array (r.normalize now url).variationItems) ∧
      (r.normalize now url).variationItems = r.variationItems.map Variation.normalize := by
  have hitems := get?_variations_normalize now url (null_or_array_of_normalize h.null_or_array)
  rw [variationItems_of_get? hitems]
  exact ⟨hitems, rfl⟩

/-- In canonical form the images of a record that keeps the contract, and the variations among its objects,
are as their readers expect them. What else it lists as variations are the lists that were there before. -/
theorem canonical_normalize (h : (r.normalize now url).Conforms) :
    (∃ images, Images.Canonical images ∧
      (r.normalize now url).get? "images" = some (Images.toJson images)) ∧
    (r.normalize now url).get? "variations" = some (.array (r.normalize now url).variationItems) ∧
    (∀ item ∈ (r.normalize now url).variationItems,
      (∃ fs, item = .object fs ∧ Variation.Canonical fs) ∨ ∃ values, item = .array values) ∧
    ∀ values, .array values ∈ (r.normalize now url).variationItems ↔ .array values ∈ r.variationItems := by
  have hmeets := h.meets
  have hnormal := normal_normalize now url r
  obtain ⟨hget, hmap⟩ := variationItems_normalize hmeets
  refine ⟨hnormal.images hmeets.isField_images, hget, fun item hitem => ?_, fun values => ?_⟩
  · obtain ⟨x, hx, hsound⟩ := hmeets.read_variationItems item hitem
    -- nothing is left to do, which tells about an object, and nothing about an array
    have hitself := (hnormal.variations hget).2 _ rfl item hitem
    obtain ⟨fs, rfl⟩ | ⟨values, rfl⟩ := Variation.object_or_array_of_read hx
    · exact .inl ⟨fs, rfl, Variation.canonical_of_normalized hx hsound (Json.object.inj hitself)⟩
    · exact .inr ⟨values, rfl⟩
  · rw [hmap, List.mem_map]
    constructor
    · rintro ⟨item, hitem, heq⟩
      rwa [← Variation.normalize_eq_array_iff.mp heq]
    · intro hitem
      exact ⟨_, hitem, rfl⟩

/-- One image as a text, and a variation with blanks and repetitions. -/
def untidy : Record :=
  ⟨[("url", .string "page"), ("status", .string "ok"), ("captured_at", .string "2026-01-01T00:00:00Z"),
    ("images", .string " a "),
    ("variations", .array [.object [("title", .string " Red "), ("image", .string "b"),
      ("images", .array [.string " a ", .string "b", .string ""])]])]⟩

theorem canonical_normalize_untidy :
    (untidy.normalize "2026-01-01T00:00:00Z" "page").Conforms ∧
      (∃ images, Images.Canonical images ∧
        (untidy.normalize "2026-01-01T00:00:00Z" "page").get? "images" = some (Images.toJson images)) ∧
      ∃ fs, (untidy.normalize "2026-01-01T00:00:00Z" "page").variationItems = [.object fs] ∧
        Variation.Canonical fs := by
  have hconforms : (untidy.normalize "2026-01-01T00:00:00Z" "page").Conforms := ⟨_, rfl⟩
  have hlist : (untidy.normalize "2026-01-01T00:00:00Z" "page").variationItems =
      [.object [("title", .string "Red"), ("image", .string "b"),
        ("images", .array [.string "b", .string "a"])]] := by
    decide +kernel
  obtain ⟨himages, -, hitems, -⟩ := canonical_normalize hconforms
  rw [hlist] at hitems
  obtain ⟨fs, heq, hcanonical⟩ | ⟨values, heq⟩ := hitems _ (List.mem_singleton.mpr rfl)
  · rw [heq] at hlist
    exact ⟨hconforms, himages, fs, hlist, hcanonical⟩
  · cases heq

/-- A variation as the list of its values. -/
def listed : Record :=
  ⟨[("url", .string "page"), ("status", .string "ok"), ("captured_at", .string "2026-01-01T00:00:00Z"),
    ("variations", .array [.array [.string " Red ", .number "0", .string "a",
      .array [.string "b", .string "b"]]])]⟩

/-- The list stays a list, and is accepted with blanks around the title and with an image that is not the
first of those it lists twice. -/
theorem canonical_normalize_listed :
    (listed.normalize "2026-01-01T00:00:00Z" "page").validate.map (·.variations) =
      .ok (some [⟨some " Red ", some 0, some "a", some ["b", "b"]⟩]) ∧
    (listed.normalize "2026-01-01T00:00:00Z" "page").variationItems =
      [.array [.string " Red ", .number "0", .string "a", .array [.string "b", .string "b"]]] := by
  decide +kernel

end Record

end ListingCrawl
