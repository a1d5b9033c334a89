import ListingCrawl.Proofs.Record.Contract
import ListingCrawl.Proofs.Record.NormalForm

/-! What stands under the keys of a record that keeps the contract, and what the canonical form adds. In
canonical form a price is a number or a text without blanks around it, the images are a list of texts, and
the images of each variation are such a list, too. -/

namespace ListingCrawl

namespace Variation

/-- What stands under the keys of an object that reads as a variation. -/
structure Fits (fs : Fields) : Prop where
  text : ∀ key ∈ ["title", "image"], ∀ v, fs.get? key = some v → v = .null ∨ ∃ s, v = .string s
  position : ∀ v, fs.get? "position" = some v →
    v = .null ∨ ∃ token n, v = .number token ∧ Json.int64? token = some n
  images : ∀ v, fs.get? "images" = some v → v = .null ∨ ∃ items, v = .array items ∧
    ∀ item ∈ items, ∃ s, item = .string s

theorem fits_of_read {fs : Fields} {x : Variation} (h : read (.object fs) = .ok x) :
    Fits fs ∧ ofFields fs = x := by
  obtain ⟨gs, hread, hx⟩ := read_eq_ok.mp h
  obtain ⟨hmembers, rfl⟩ := Json.Shape.readObject_optionalFields.mp hread
  have hmember : ∀ {key : String} {v : Json}, fs.get? key = some v → shape.checkMember (key, v) = .ok () :=
    fun hget => hmembers _ (Fields.mem_of_get? hget)
  refine ⟨⟨?_, fun v hv => ?_, fun v hv => ?_⟩, hx⟩
  · simp only [List.forall_mem_cons, List.not_mem_nil, IsEmpty.forall_iff, implies_true, and_true]
    constructor
    · intro v hv
      have hcheck : Json.Check.optional .text v = .ok () := hmember hv
      rwa [Json.Check.optional_eq_ok, Json.Check.text_eq_ok] at hcheck
    · intro v hv
      have hcheck : Json.Check.optional .text v = .ok () := hmember hv
      rwa [Json.Check.optional_eq_ok, Json.Check.text_eq_ok] at hcheck
  · have hcheck : Json.Check.optional .integer v = .ok () := hmember hv
    rwa [Json.Check.optional_eq_ok, Json.Check.integer_eq_ok] at hcheck
  · have hcheck : Json.Check.optional (.list .text) v = .ok () := hmember hv
    simpa only [Json.Check.optional_eq_ok, Json.Check.list_eq_ok, Json.Check.text_eq_ok] using hcheck

theorem get?_trimTitle {key : String} (h : key ≠ "title") (fs : Fields) :
    (trimTitle fs).get? key = fs.get? key := by
  rw [trimTitle_eq]
  exact Fields.get?_edit_of_ne h

/-- In canonical form the images of a variation are a list of texts, and the single image is the first. -/
theorem Fits.images_of_normalized {fs : Fields} (h : Fits fs) (hnormal : normalizeFields fs = fs) :
    ∃ images, Images.Canonical images ∧ fs.get? "images" = some (Images.toJson images) ∧
      fs.get? "image" = images.head?.map Json.string := by
  have himage : isImage (fs.get? "image") = true := by
    cases hv : fs.get? "image" with
    | none => rfl
    | some v =>
      obtain rfl | ⟨s, rfl⟩ := h.text "image" (by simp) v hv <;> rfl
  have himages : Images.isField (fs.get? "images") = true := by
    cases hv : fs.get? "images" with
    | none => rfl
    | some v =>
      obtain rfl | ⟨items, rfl, -⟩ := h.images v hv <;> rfl
  -- both fields can be read, so the canonical form has put the images there
  have hset : setImages (trimTitle fs) (imagesOf (trimTitle fs)) = fs := by
    rw [← get?_trimTitle (by decide)] at himage himages
    rw [normalizeFields, himage, himages] at hnormal
    exact hnormal
  refine ⟨imagesOf (trimTitle fs), Images.canonical_ofJson _, ?_, ?_⟩
  · rw [← get?_images_setImages, hset]
  · rw [← get?_image_setImages, hset]

end Variation

namespace Record

/-- The keys of the contract under which there may be any text. -/
def textKeys : List String :=
  ["notes", "error", "title", "description", "currency"]

/-- What stands under the keys of a record that keeps the contract. -/
structure Meets (r : Record) : Prop where
  url : ∃ s, r.get? "url" = some (.string s) ∧ Text.isBlankText s = false
  status : ∃ s, r.get? "status" = some (.string s) ∧ (Status.ofName? (Text.trim s)).isSome = true
  capturedAt : ∃ s, r.get? "captured_at" = some (.string s) ∧ Time.isRfc3339 (Text.trim s) = true
  text : ∀ key ∈ textKeys, ∀ v, r.get? key = some v → v = .null ∨ ∃ s, v = .string s
  price : ∀ v, r.get? "price" = some v → v = .null ∨ (∃ token, v = .number token) ∨
    (∃ s, v = .string s ∧ isNumericText (Text.trim s) = true) ∨
    ∃ text, v = .held text ∧ Json.IsNumberText text
  images : ∀ v, r.get? "images" = some v → v = .null ∨ ∃ items, v = .array items ∧
    ∀ item ∈ items, item.WellHeld
  variations : ∀ v, r.get? "variations" = some v → v = .null ∨ ∃ items, v = .array items ∧
    ∀ item ∈ items, ∃ x, Variation.read item = .ok x ∧ x.Sound

theorem text?_eq_some_iff {r : Record} {key s : String} :
    r.text? key = some s ↔ r.get? key = some (.string s) :=
  Fields.text?_eq_some_iff

theorem Conforms.meets {r : Record} (h : r.Conforms) : r.Meets := by
  obtain ⟨l, h⟩ := h
  obtain ⟨hmembers, rfl, hviolations⟩ := validate_eq_ok.mp h
  obtain ⟨hurl, hstatus, ⟨t, ht, hrfc⟩, -, -, hprice, hvariations⟩ :=
    Listing.violations_eq_nil.mp hviolations
  have hmember : ∀ {key : String} {v : Json}, r.get? key = some v →
      Listing.shape.checkMember (key, v) = .ok () :=
    fun hget => hmembers _ (Fields.mem_of_get? hget)
  constructor
  case url =>
    obtain ⟨s, hs, hblank⟩ := Listing.isMissing_eq_false.mp hurl
    exact ⟨s, text?_eq_some_iff.mp hs, hblank⟩
  case status =>
    have hname : (Status.ofName? (Text.trim ((r.text? "status").getD ""))).isSome = true := hstatus
    cases hs : r.text? "status" with
    | none =>
      have hblank : Status.ofName? (Text.trim "") = none := by decide
      simp [hs, hblank] at hname
    | some s => exact ⟨s, text?_eq_some_iff.mp hs, by simpa [hs] using hname⟩
  case capturedAt =>
    obtain ⟨s, hs, htrim⟩ := Option.bind_eq_some_iff.mp ht
    obtain ⟨-, rfl⟩ := Text.trimmed?_eq_some_iff.mp htrim
    exact ⟨s, text?_eq_some_iff.mp hs, hrfc⟩
  case text =>
    intro key hkey v hv
    have hshape : ∀ key ∈ textKeys, ∀ v,
        Listing.shape.checkMember (key, v) = Json.Check.optional .text v := by
      simp only [textKeys, List.forall_mem_cons]
      exact ⟨fun _ => rfl, fun _ => rfl, fun _ => rfl, fun _ => rfl, fun _ => rfl, by simp⟩
    have hcheck := hmember hv
    rwa [hshape key hkey, Json.Check.optional_eq_ok, Json.Check.text_eq_ok] at hcheck
  case price =>
    intro v hv
    have hcheck : Json.Check.value v = .ok () := hmember hv
    obtain ⟨w, hw⟩ := Json.exists_settle_iff.mpr (Json.Check.value_eq_ok.mp hcheck)
    exact Listing.exists_settle_isPrice_iff.mp ⟨w, hw, Listing.forall_price_ofFields.mp hprice v hv w hw⟩
  case images =>
    intro v hv
    have hcheck : Json.Check.optional (.list .value) v = .ok () := hmember hv
    simpa only [Json.Check.optional_eq_ok, Json.Check.list_eq_ok, Json.Check.value_eq_ok] using hcheck
  case variations =>
    intro v hv
    have hcheck := hmember hv
    cases v with
    | null => exact .inl rfl
    | array items =>
      refine .inr ⟨items, rfl, fun item hitem => ?_⟩
      obtain ⟨x, hx⟩ := Listing.checkMember_variations.mp hcheck item hitem
      refine ⟨x, hx, hvariations x ?_⟩
      rw [get?] at hv
      simp only [Listing.ofFields, hv, Option.getD_some]
      exact List.mem_filterMap.mpr ⟨item, hitem, by rw [hx]; rfl⟩
    | _ => cases hcheck

theorem Meets.isField_images {r : Record} (h : r.Meets) : Images.isField (r.get? "images") = true := by
  cases hv : r.get? "images" with
  | none => rfl
  | some v =>
    obtain rfl | ⟨items, rfl, -⟩ := h.images v hv <;> rfl

theorem Meets.null_or_array {r : Record} (h : r.Meets) :
    ∀ v, r.get? "variations" = some v → v = .null ∨ ∃ items, v = .array items :=
  fun v hv => (h.variations v hv).imp_right fun ⟨items, heq, _⟩ => ⟨items, heq⟩

/-! ### Canonical values -/

theorem Normal.price {r : Record} (h : r.Normal) {v : Json} (hv : r.get? "price" = some v) :
    v ≠ .null ∧ ∀ s, v = .string s → Text.trim s = s := by
  have hsettled : r.fields.Settled "price" .price := h "" "" ("price", .price) (by simp [rules])
  rw [get?] at hv
  constructor
  · rintro rfl
    rw [hsettled.get?_of_drop (by rw [hv]; rfl)] at hv
    cases hv
  · rintro s rfl
    cases htrim : Text.trimmed? s with
    | none =>
      rw [hsettled.get?_of_drop (by rw [hv]; simp [Rule.price, htrim])] at hv
      cases hv
    | some p =>
      have hput := hsettled.get?_of_put (v := .string p) (by rw [hv]; simp [Rule.price, htrim])
      obtain ⟨-, rfl⟩ := Text.trimmed?_eq_some_iff.mp htrim
      rw [hv] at hput
      exact (Json.string.inj (Option.some.inj hput)).symm

theorem Normal.images {r : Record} (h : r.Normal) (hfield : Images.isField (r.get? "images") = true) :
    ∃ images, Images.Canonical images ∧ r.get? "images" = some (Images.toJson images) := by
  have hsettled : r.fields.Settled "images" .images := h "" "" ("images", .images) (by simp [rules])
  exact ⟨_, Images.canonical_ofJson _, hsettled.get?_of_put (if_pos hfield)⟩

theorem Normal.variations {r : Record} (h : r.Normal) {v : Json} (hv : r.get? "variations" = some v) :
    v ≠ .null ∧ ∀ items, v = .array items → ∀ item ∈ items, Variation.normalize item = item := by
  have hsettled : r.fields.Settled "variations" .variations :=
    h "" "" ("variations", .variations) (by simp [rules])
  rw [get?] at hv
  constructor
  · rintro rfl
    have hput := hsettled.get?_of_put (v := .array []) (by rw [hv]; rfl)
    cases hv.symm.trans hput
  · rintro items rfl
    have hput := hsettled.get?_of_put (v := .array (items.map Variation.normalize)) (by rw [hv]; rfl)
    have hitems : items = items.map Variation.normalize :=
      Json.array.inj (Option.some.inj (hv.symm.trans hput))
    intro item hitem
    conv_lhs at hitems => rw [← List.map_id items]
    exact (List.map_inj_left.mp hitems item hitem).symm

end Record

end ListingCrawl
