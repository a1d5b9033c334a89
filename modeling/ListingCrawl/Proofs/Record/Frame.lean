import ListingCrawl.Proofs.Record.Keeps

/-! What the canonical form leaves alone. Six keys of a record have a canonical form, and three of a variation;
the entries under all others stay as they are, in their order. Of the six, no key is lost but a currency or a
price that says nothing, and four are there in any case, behind the old ones where they are new. -/

namespace ListingCrawl

/-! ### Variations -/

namespace Variation

/-- The keys of a variation whose values have a canonical form. -/
def canonicalKeys : List String :=
  ["title", "image", "images"]

theorem without_normalizeFields (fs : Fields) :
    (normalizeFields fs).without canonicalKeys = fs.without canonicalKeys := by
  obtain ⟨rules, heq, hrules⟩ := exists_edits fs
  rw [heq]
  refine Fields.without_edits (List.forall_mem_cons.mpr ⟨by decide, ?_⟩)
  obtain rfl | ⟨images, rfl⟩ := hrules
  · simp
  · simp [imageRules, canonicalKeys]

/-- The same but for the title and the images of an object. -/
inductive Framed : Json → Json → Prop
  | object {fs gs : Fields} : gs.without canonicalKeys = fs.without canonicalKeys →
      Framed (.object fs) (.object gs)
  | same (v : Json) : Framed v v

theorem framed_normalize (v : Json) : Framed v (normalize v) := by
  cases v with
  | object fs => exact .object (without_normalizeFields fs)
  | _ => exact .same _

end Variation

/-! ### Rules -/

namespace Rule

/-- There is a value afterwards, whatever was there before. -/
def Provides (f : Rule) : Prop :=
  ∀ o, ((f o).value o).isSome = true

theorem provides_fill (v : Json) : (fill v).Provides := by
  rintro (_ | (_ | _ | _ | _ | _ | _)) <;> rfl

theorem provides_images : images.Provides := by
  intro o
  unfold images
  split
  · rfl
  · -- what is kept is there, since nothing at all would have been an image field
    cases o with
    | none => contradiction
    | some v => rfl

theorem provides_variations : variations.Provides := by
  rintro (_ | (_ | _ | _ | _ | _ | _)) <;> rfl

end Rule

/-! ### Records -/

namespace Record

variable {r : Record} {now url key : String}

/-- The keys that a record in canonical form has. -/
def providedKeys : List String :=
  ["url", "captured_at", "images", "variations"]

theorem contains_eq (r : Record) (key : String) : r.contains key = (r.get? key).isSome := rfl

theorem contains_normalize (now url : String) (r : Record) (h : key ∈ providedKeys) :
    (r.normalize now url).contains key = true := by
  obtain ⟨rule, hrule, hprovides⟩ : ∃ rule, (key, rule) ∈ rules now url ∧ rule.Provides := by
    simp only [providedKeys, List.mem_cons, List.not_mem_nil, or_false] at h
    obtain rfl | rfl | rfl | rfl := h
    · exact ⟨.fill (.string url), by simp [rules], Rule.provides_fill _⟩
    · exact ⟨.fill (.string now), by simp [rules], Rule.provides_fill _⟩
    · exact ⟨.images, by simp [rules], Rule.provides_images⟩
    · exact ⟨.variations, by simp [rules], Rule.provides_variations⟩
  rw [contains_eq, get?_normalize_of_mem hrule]
  exact hprovides _

/-- No currency and no price is put where there was none. -/
theorem not_contains_normalize (now url : String) (h : key ∈ ["currency", "price"])
    (hr : r.contains key = false) : (r.normalize now url).contains key = false := by
  obtain ⟨rule, hrule, hkeep⟩ : ∃ rule, (key, rule) ∈ rules now url ∧ rule none = .keep := by
    simp only [List.mem_cons, List.not_mem_nil, or_false] at h
    obtain rfl | rfl := h
    · exact ⟨.currency, by simp [rules], rfl⟩
    · exact ⟨.price, by simp [rules], rfl⟩
  rw [contains_eq, Option.isSome_eq_false_iff, Option.isNone_iff_eq_none] at hr ⊢
  rw [get?_normalize_of_mem hrule, hr, hkeep]
  rfl

/-- The old keys that are left keep their order, and the new ones stand behind them. -/
theorem keys_normalize (now url : String) (r : Record) : (r.normalize now url).keys =
    r.keys.filter (r.normalize now url).contains ++ providedKeys.filter fun key => !r.contains key := by
  have hkeys : (r.normalize now url).keys = r.keys.filter (r.normalize now url).contains ++
      canonicalKeys.filter fun key => !r.contains key && (r.normalize now url).contains key := by
    have hnodup : ((rules now url).map (·.1)).Nodup := by simp [rules]
    have hedits : (r.fields.edits (rules now url)).keys = _ := Fields.keys_edits hnodup
    rwa [← normalize_fields] at hedits
  have hdropped : ["currency", "price"].filter
      (fun key => !r.contains key && (r.normalize now url).contains key) = [] := by
    refine List.filter_eq_nil_iff.mpr fun key hkey => ?_
    cases hr : r.contains key with
    | true => simp
    | false => simp [not_contains_normalize now url hkey hr]
  have hprovided : ∀ ks ⊆ providedKeys,
      ks.filter (fun key => !r.contains key && (r.normalize now url).contains key) =
        ks.filter fun key => !r.contains key := by
    refine fun ks hks => List.filter_congr fun key hkey => ?_
    rw [contains_normalize now url r (hks hkey), Bool.and_true]
  have hsplit : canonicalKeys = ["url", "captured_at"] ++ ["currency", "price"] ++
      ["images", "variations"] := rfl
  rw [hkeys, hsplit, List.filter_append, List.filter_append, hdropped, List.append_nil,
    hprovided _ (by decide), hprovided _ (by decide), ← List.filter_append]
  rfl

/-- No other key is lost than a currency or a price. -/
theorem contains_normalize_of_mem_keys (now url : String) (h : key ∈ r.keys)
    (hkey : key ∉ ["currency", "price"]) : (r.normalize now url).contains key = true := by
  by_cases hprovided : key ∈ providedKeys
  · exact contains_normalize now url r hprovided
  · have hcanonical : key ∉ canonicalKeys := by
      simp only [providedKeys, canonicalKeys, List.mem_cons, List.not_mem_nil, or_false] at *
      tauto
    rw [contains_eq, get?_normalize hcanonical]
    exact Fields.contains_iff_mem_keys.mpr h

/-- What the canonical form changes, and what it leaves alone. -/
theorem normalize_frame (now url : String) (r : Record) :
    (∀ key ∉ canonicalKeys, (r.normalize now url).get? key = r.get? key) ∧
    (r.normalize now url).keys = r.keys.filter (r.normalize now url).contains ++
      providedKeys.filter (fun key => !r.contains key) ∧
    (∀ key ∈ r.keys, key ∉ ["currency", "price"] → (r.normalize now url).contains key = true) ∧
    (∀ key ∈ ["url", "captured_at"], ∀ v, r.get? key = some v → v ≠ .null →
      (r.normalize now url).get? key = some v) ∧
    ∀ items, r.get? "variations" = some (.array items) →
      ∃ items', (r.normalize now url).get? "variations" = some (.array items') ∧
        List.Forall₂ Variation.Framed items items' := by
  refine ⟨fun key hkey => get?_normalize hkey now url r, keys_normalize now url r,
    fun key hkey => contains_normalize_of_mem_keys now url hkey, fun key hkey v hv hnull => ?_,
    fun items hitems => ?_⟩
  · simp only [List.mem_cons, List.not_mem_nil, or_false] at hkey
    obtain rfl | rfl := hkey
    · exact get?_normalize_of_fill List.mem_cons_self hnull hv
    · exact get?_normalize_of_fill (List.mem_cons_of_mem _ List.mem_cons_self) hnull hv
  · have hrule : ("variations", Rule.variations) ∈ rules now url := by simp [rules]
    refine ⟨items.map Variation.normalize, ?_, ?_⟩
    · rw [get?_normalize_of_mem hrule, hitems]
      rfl
    · rw [List.forall₂_map_right_iff, List.forall₂_same]
      exact fun v _ => Variation.framed_normalize v

end Record

end ListingCrawl
