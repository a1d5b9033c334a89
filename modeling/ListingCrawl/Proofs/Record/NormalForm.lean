import ListingCrawl.Proofs.Record.Images
import ListingCrawl.Proofs.Record.Rule
import ListingCrawl.Proofs.Text.Upper
import ListingCrawl.Record.Normal

/-! The canonical form of a record is a normal form. Canonicalization is a list of rules for distinct keys,
and each rule accepts what it leaves behind: an upper-case text is its own upper case, a trimmed text its
own trimmed form, a list of distinct trimmed images its own list, and a variation with merged images its
own merge. So no rule finds anything to do a second time, whatever url and time it is given then. -/

namespace ListingCrawl

/-! ### Rules -/

namespace Rule

/-- Puts `v` where there is nothing or null. -/
def fill (v : Json) : Rule
  | none | some .null => .put v
  | some _ => .keep

def always (e : Edit) : Rule := fun _ => e

def title : Rule
  | some (.string s) => .put (.string (Text.trim s))
  | _ => .keep

def currency : Rule
  | some (.string s) =>
    if (Text.upper (Text.trim s)).isEmpty then .drop else .put (.string (Text.upper (Text.trim s)))
  | _ => .keep

def price : Rule
  | some .null => .drop
  | some (.string s) =>
    match Text.trimmed? s with
    | none => .drop
    | some price => .put (.string price)
  | _ => .keep

def images : Rule := fun o =>
  if Images.isField o then .put (Images.toJson (Images.ofJson (o.getD .null))) else .keep

def variations : Rule
  | some (.array items) => .put (.array (items.map Variation.normalize))
  | none | some .null => .put (.array [])
  | some _ => .keep

theorem settles_fill {v w : Json} (hv : v ≠ .null) : (fill v).Settles (fill w) := by
  have hsome : fill w (some v) = .keep := by
    cases v <;> first | rfl | exact absurd rfl hv
  intro o
  rcases o with _ | (_ | _ | _ | _ | _ | _)
  all_goals first | exact .inl hsome | rfl

theorem settles_always (e : Edit) : (always e).Settles (always e) := by
  intro o
  cases e with
  | keep => rfl
  | drop => exact .inr rfl
  | put v => exact .inr rfl

theorem settles_title : title.Settles title := by
  intro o
  rcases o with _ | (_ | _ | _ | s | _ | _)
  case some.string =>
    right
    simp [title]
  all_goals rfl

theorem settles_currency : currency.Settles currency := by
  intro o
  rcases o with _ | (_ | _ | _ | s | _ | _)
  case some.string =>
    have hagain : Text.upper (Text.trim (Text.upper (Text.trim s))) = Text.upper (Text.trim s) := by
      rw [Text.trim_upper_trim, Text.upper_upper]
    simp only [currency]
    generalize Text.upper (Text.trim s) = t at hagain ⊢
    by_cases h : t.isEmpty = true
    · simp only [h, ↓reduceIte, true_or]
    · simp only [h, hagain, Bool.false_eq_true, ↓reduceIte, or_true]
  all_goals rfl

theorem settles_price : price.Settles price := by
  intro o
  rcases o with _ | (_ | _ | _ | s | _ | _)
  case some.null => exact .inl rfl
  case some.string =>
    cases h : Text.trimmed? s with
    | none => simp [price, h]
    | some t =>
      obtain ⟨hblank, rfl⟩ := Text.trimmed?_eq_some_iff.mp h
      have htrim : Text.trimmed? (Text.trim s) = some (Text.trim s) := by
        rw [Text.trimmed?_eq_some_iff, Text.isBlankText_trim, Text.trim_trim]
        exact ⟨hblank, rfl⟩
      simp [price, h, htrim]
  all_goals rfl

theorem settles_images : images.Settles images := by
  intro o
  by_cases h : Images.isField o = true
  · have hcanonical := Images.canonical_ofJson (o.getD .null)
    simp only [images, h, ↓reduceIte]
    right
    rw [Option.getD_some, Images.ofJson_toJson hcanonical]
    rfl
  · simp [images, h]

end Rule

/-! ### Variations -/

namespace Variation

/-- The single image that goes with a list of images. -/
def firstImage : List String → Edit
  | first :: _ => .put (.string first)
  | [] => .drop

/-- The rules that put images into a variation. -/
def imageRules (images : List String) : List (String × Rule) :=
  [("image", .always (firstImage images)), ("images", .always (.put (Images.toJson images)))]

theorem trimTitle_eq (v : Fields) : trimTitle v = v.edit "title" Rule.title := by
  unfold trimTitle Fields.edit Fields.text?
  rcases v.get? "title" with _ | (_ | _ | _ | _ | _ | _) <;> rfl

theorem setImages_eq (v : Fields) (images : List String) :
    setImages v images = v.edits (imageRules images) := by
  cases images <;> rfl

theorem setImages_setImages (v : Fields) (images : List String) :
    setImages (setImages v images) images = setImages v images := by
  rw [setImages_eq, setImages_eq]
  refine Fields.edits_eq_self (Rule.settled_edits ?_ (by simp [imageRules]) v)
  exact .cons ⟨rfl, Rule.settles_always _⟩ (.cons ⟨rfl, Rule.settles_always _⟩ .nil)

theorem trimTitle_setImages {v : Fields} (images : List String) (h : trimTitle v = v) :
    trimTitle (setImages v images) = setImages v images := by
  rw [trimTitle_eq] at h
  rw [trimTitle_eq, setImages_eq]
  exact Fields.Settled.edits (by simp [imageRules]) h

theorem get?_image_setImages (v : Fields) (images : List String) :
    (setImages v images).get? "image" = images.head?.map Json.string := by
  cases images with
  | nil =>
    rw [setImages, Fields.get?_insert_of_ne (by decide)]
    exact Fields.get?_erase_self
  | cons first images =>
    rw [setImages, Fields.get?_insert_of_ne (by decide)]
    exact Fields.get?_insert_self

theorem get?_images_setImages (v : Fields) (images : List String) :
    (setImages v images).get? "images" = some (Images.toJson images) := by
  exact Fields.get?_insert_self

/-- Images that have been put into a variation are found there again. -/
theorem imagesOf_setImages {images : List String} (v : Fields) (h : Images.Canonical images) :
    imagesOf (setImages v images) = images := by
  rw [imagesOf, get?_image_setImages, get?_images_setImages]
  cases images with
  | nil => rfl
  | cons first images => exact Images.ofJson_first h

theorem normalizeFields_normalizeFields (v : Fields) :
    normalizeFields (normalizeFields v) = normalizeFields v := by
  have htitle : trimTitle (trimTitle v) = trimTitle v := by
    rw [trimTitle_eq, trimTitle_eq]
    exact Rule.settled_edit Rule.settles_title v "title"
  by_cases hok : (isImage ((trimTitle v).get? "image") &&
      Images.isField ((trimTitle v).get? "images")) = true
  · have hv : normalizeFields v = setImages (trimTitle v) (imagesOf (trimTitle v)) := by
      rw [normalizeFields, if_pos hok]
    have hcanonical : Images.Canonical (imagesOf (trimTitle v)) := Images.canonical_ofJson _
    rw [hv]
    generalize imagesOf (trimTitle v) = images at hcanonical
    have hagain : (isImage ((setImages (trimTitle v) images).get? "image") &&
        Images.isField ((setImages (trimTitle v) images).get? "images")) = true := by
      rw [get?_image_setImages, get?_images_setImages]
      cases images <;> rfl
    rw [normalizeFields, trimTitle_setImages images htitle, if_pos hagain,
      imagesOf_setImages _ hcanonical, setImages_setImages]
  · have hv : normalizeFields v = trimTitle v := by
      rw [normalizeFields, if_neg hok]
    rw [hv, normalizeFields, htitle, if_neg hok]

theorem normalize_normalize (v : Json) : normalize (normalize v) = normalize v := by
  cases v with
  | object fields => exact congrArg Json.object (normalizeFields_normalizeFields fields)
  | _ => rfl

end Variation

theorem Rule.settles_variations : Rule.variations.Settles Rule.variations := by
  intro o
  rcases o with _ | (_ | _ | _ | _ | items | _)
  case some.array =>
    right
    simp only [variations, List.map_map]
    congr 2
    exact List.map_congr_left fun v _ => Variation.normalize_normalize v
  case none => exact .inr rfl
  case some.null => exact .inr rfl
  all_goals rfl

/-! ### Records -/

namespace Record

/-- What is done to a record, key by key. -/
def rules (now url : String) : List (String × Rule) :=
  [("url", .fill (.string url)), ("captured_at", .fill (.string now)), ("currency", .currency),
    ("price", .price), ("images", .images), ("variations", .variations)]

theorem setDefault_fields (r : Record) (key : String) (v : Json) :
    (r.setDefault key v).fields = r.fields.edit key (.fill v) := by
  unfold setDefault Fields.edit get?
  rcases r.fields.get? key with _ | (_ | _ | _ | _ | _ | _) <;> rfl

theorem normalizeCurrency_fields (r : Record) :
    r.normalizeCurrency.fields = r.fields.edit "currency" .currency := by
  unfold normalizeCurrency Fields.edit text? Fields.text?
  rcases r.fields.get? "currency" with _ | (_ | _ | _ | s | _ | _)
  case some.string =>
    simp only [Rule.currency]
    split <;> rfl
  all_goals rfl

theorem normalizePrice_fields (r : Record) :
    r.normalizePrice.fields = r.fields.edit "price" .price := by
  unfold normalizePrice Fields.edit get?
  rcases r.fields.get? "price" with _ | (_ | _ | _ | s | _ | _)
  case some.string =>
    cases h : Text.trimmed? s <;> simp [Rule.price, h, erase, insertText, insert]
  all_goals rfl

theorem normalizeImages_fields (r : Record) :
    r.normalizeImages.fields = r.fields.edit "images" .images := by
  unfold normalizeImages Fields.edit get?
  by_cases h : Images.isField (r.fields.get? "images") = true <;> simp [Rule.images, h, insert]

theorem normalizeVariations_fields (r : Record) :
    r.normalizeVariations.fields = r.fields.edit "variations" .variations := by
  unfold normalizeVariations Fields.edit get?
  rcases r.fields.get? "variations" with _ | (_ | _ | _ | _ | _ | _) <;> rfl

theorem normalize_fields (now url : String) (r : Record) :
    (r.normalize now url).fields = r.fields.edits (rules now url) := by
  rw [normalize, normalizeVariations_fields, normalizeImages_fields, normalizePrice_fields,
    normalizeCurrency_fields, setDefault_fields, setDefault_fields]
  rfl

/-- The keys whose values have a canonical form. -/
def canonicalKeys : List String :=
  ["url", "captured_at", "currency", "price", "images", "variations"]

theorem get?_normalize {key : String} (h : key ∉ canonicalKeys) (now url : String) (r : Record) :
    (r.normalize now url).get? key = r.get? key := by
  rw [get?, get?, normalize_fields]
  exact Fields.get?_edits_of_not_mem h

theorem get?_normalize_of_mem {key : String} {rule : Rule} {now url : String}
    (h : (key, rule) ∈ rules now url) (r : Record) :
    (r.normalize now url).get? key = (rule (r.get? key)).value (r.get? key) := by
  rw [get?, get?, normalize_fields]
  exact Fields.get?_edits_of_mem h (by simp [rules])

/-- What is there is not filled in. -/
theorem get?_normalize_of_fill {key text now url : String} {r : Record} {v : Json}
    (hrule : (key, Rule.fill (.string text)) ∈ rules now url) (hv : v ≠ .null) (h : r.get? key = some v) :
    (r.normalize now url).get? key = some v := by
  rw [get?_normalize_of_mem hrule, h]
  cases v with
  | null => contradiction
  | _ => rfl

theorem status?_normalize (now url : String) (r : Record) :
    (r.normalize now url).status? = r.status? := by
  have hkept := r.get?_normalize (by decide : "status" ∉ canonicalKeys) now url
  simp only [status?, text?, Fields.text?]
  rw [get?, get?] at hkept
  rw [hkept]

/-- No rule has anything to do, at whatever time and with whatever url. -/
def Normal (r : Record) : Prop :=
  ∀ now url, ∀ rule ∈ rules now url, r.fields.Settled rule.1 rule.2

theorem normal_normalize (now url : String) (r : Record) : (r.normalize now url).Normal := by
  intro now' url'
  rw [normalize_fields]
  refine Rule.settled_edits ?_ (by simp [rules]) r.fields
  exact .cons ⟨rfl, Rule.settles_fill (by simp)⟩ (.cons ⟨rfl, Rule.settles_fill (by simp)⟩
    (.cons ⟨rfl, Rule.settles_currency⟩ (.cons ⟨rfl, Rule.settles_price⟩
      (.cons ⟨rfl, Rule.settles_images⟩ (.cons ⟨rfl, Rule.settles_variations⟩ .nil)))))

theorem normalize_of_normal {r : Record} (h : r.Normal) (now url : String) :
    r.normalize now url = r := by
  have hfields : (r.normalize now url).fields = r.fields := by
    rw [normalize_fields, Fields.edits_eq_self (h now url)]
  cases r
  exact congrArg Record.mk hfields

/-- Normalizing twice is normalizing once, with keys and their order, also if the second time is later and
has another url to fill in. -/
theorem normalize_twice (r : Record) (now now' url url' : String) :
    (r.normalize now url).normalize now' url' = r.normalize now url :=
  normalize_of_normal (normal_normalize now url r) now' url'

end Record

end ListingCrawl
