import ListingCrawl.Proofs.Record.Canonical

/-! The canonical form of a record that keeps the contract keeps it as well. What its rules put has the type
that the contract asks for, and what the contract asks beyond types is not about blanks around a text. Of the
listing the currency, the price and the images change, and the titles and images of the variations. -/

namespace ListingCrawl

/-! ### Variations -/

namespace Variation

/-- The same position, and the same title but for blanks around it. -/
structure Alike (x y : Variation) : Prop where
  position : y.position = x.position
  title : y.title.map Text.trim = x.title.map Text.trim

theorem Alike.isMissing {x y : Variation} (h : Alike x y) :
    Listing.isMissing y.title = Listing.isMissing x.title := by
  have hmissing : ∀ o, Listing.isMissing (o.map Text.trim) = Listing.isMissing o := by
    rintro (_ | s)
    · rfl
    · exact Text.isBlankText_trim s
  rw [← hmissing, h.title, hmissing]

theorem Alike.sound {x y : Variation} (h : Alike x y) (hx : x.Sound) : y.Sound := by
  refine ⟨h.isMissing.trans hx.1, fun n hn => hx.2 n ?_⟩
  rw [← h.position, hn]

theorem sound_of_forall₂_alike {xs ys : List Variation} (h : List.Forall₂ Alike xs ys)
    (hxs : ∀ x ∈ xs, x.Sound) : ∀ y ∈ ys, y.Sound := by
  induction h with
  | nil => exact hxs
  | cons halike _ ih =>
    obtain ⟨hx, hxs⟩ := List.forall_mem_cons.mp hxs
    exact List.forall_mem_cons.mpr ⟨halike.sound hx, ih hxs⟩

/-- The canonical form of what reads as a variation reads as such a variation. -/
theorem read_normalize {v : Json} {x : Variation} (h : read v = .ok x) :
    ∃ y, read (normalize v) = .ok y ∧ Alike x y := by
  cases v with
  | object fs =>
    obtain ⟨gs, hread, rfl⟩ := read_eq_ok.mp h
    obtain ⟨hmembers, rfl⟩ := Json.Shape.readObject_optionalFields.mp hread
    -- what is put there has the type of its key, whatever else the object has
    have hkept : ∀ m ∈ normalizeFields fs, shape.checkMember m = .ok () :=
      forall_mem_normalizeFields hmembers (fun _ => rfl) (fun _ => rfl) fun images => by
        refine Json.Check.optional_eq_ok.mpr (.inr (Json.Check.list_eq_ok.mpr ⟨_, rfl, fun v hv => ?_⟩))
        obtain ⟨s, -, rfl⟩ := List.mem_map.mp hv
        rfl
    refine ⟨ofFields (normalizeFields fs), read_eq_ok.mpr
      ⟨_, Json.Shape.readObject_optionalFields.mpr ⟨hkept, rfl⟩, rfl⟩, ?_, ?_⟩
    · simp only [ofFields, get?_normalizeFields (by decide : "position" ∉ ["title", "image", "images"])]
    · simp only [ofFields, Fields.text?, get?_title_normalizeFields]
      rcases Fields.get? fs "title" with _ | (_ | _ | _ | s | _ | _)
      case some.string => exact congrArg some (Text.trim_trim s)
      all_goals rfl
  | array values => exact ⟨x, h, rfl, rfl⟩
  | _ => cases h

/-- Of several variations in canonical form none is lost. -/
theorem forall₂_read_normalize {items : List Json} (h : ∀ item ∈ items, ∃ x, read item = .ok x) :
    List.Forall₂ Alike (items.filterMap fun v => (read v).toOption)
      ((items.map normalize).filterMap fun v => (read v).toOption) := by
  induction items with
  | nil => exact .nil
  | cons item items ih =>
    obtain ⟨⟨x, hx⟩, hitems⟩ := List.forall_mem_cons.mp h
    obtain ⟨y, hy, halike⟩ := read_normalize hx
    rw [List.map_cons, List.filterMap_cons_some (by rw [hx]; rfl),
      List.filterMap_cons_some (by rw [hy]; rfl)]
    exact .cons halike (ih hitems)

end Variation

/-! ### Listings -/

namespace Listing

/-- The same listing but for its currency, price and images, and for what variations may differ in. -/
structure Alike (l l' : Listing) : Prop where
  url : l'.url = l.url
  status : l'.status = l.status
  capturedAt : l'.capturedAt = l.capturedAt
  notes : l'.notes = l.notes
  error : l'.error = l.error
  title : l'.title = l.title
  description : l'.description = l.description
  variations : List.Forall₂ Variation.Alike (l.variations.getD []) (l'.variations.getD [])

theorem Alike.violations_eq_nil {l l' : Listing} (h : Alike l l') (hl : l.violations = [])
    (hprice : ∀ v, l'.price = some v → isPrice v = true) : l'.violations = [] := by
  obtain ⟨hurl, hstatus, htime, hnotes, herror, -, hvariations⟩ := Listing.violations_eq_nil.mp hl
  have hstatusText : l'.statusText = l.statusText := by rw [statusText, h.status, statusText]
  refine Listing.violations_eq_nil.mpr ⟨?_, ?_, ?_, ?_, ?_, hprice,
    Variation.sound_of_forall₂_alike h.variations hvariations⟩
  · rw [h.url]
    exact hurl
  · rw [hstatusText]
    exact hstatus
  · rw [h.capturedAt]
    exact htime
  · rw [hstatusText, h.notes]
    exact hnotes
  · rw [hstatusText, h.error]
    exact herror

end Listing

/-! ### Records -/

namespace Record

variable {r : Record}

/-- The values in canonical form have the types of the contract. -/
theorem checkMember_normalize (now url : String)
    (h : ∀ m ∈ r.fields, Listing.shape.checkMember m = .ok ()) :
    ∀ m ∈ (r.normalize now url).fields, Listing.shape.checkMember m = .ok () := by
  have himages : ∀ images, Listing.shape.checkMember ("images", Images.toJson images) = .ok () := by
    intro images
    refine Json.Check.optional_eq_ok.mpr (.inr (Json.Check.list_eq_ok.mpr ⟨_, rfl, fun v hv => ?_⟩))
    obtain ⟨s, -, rfl⟩ := List.mem_map.mp hv
    rfl
  have hvariations : ∀ items, Listing.shape.checkMember ("variations", .array items) = .ok () →
      Listing.shape.checkMember ("variations", .array (items.map Variation.normalize)) = .ok () := by
    intro items hitems
    refine Listing.checkMember_variations.mpr fun v hv => ?_
    obtain ⟨item, hitem, rfl⟩ := List.mem_map.mp hv
    obtain ⟨x, hx⟩ := Listing.checkMember_variations.mp hitems item hitem
    obtain ⟨y, hy, -⟩ := Variation.read_normalize hx
    exact ⟨y, hy⟩
  rw [normalize_fields]
  refine Fields.forall_mem_edits h ?_
  simp only [rules, List.forall_mem_cons]
  exact ⟨Rule.keeps_fill (fun _ => rfl) url, Rule.keeps_fill (fun _ => rfl) now,
    Rule.keeps_currency fun _ => rfl, Rule.keeps_price fun _ _ => rfl, Rule.keeps_images himages,
    Rule.keeps_variations rfl hvariations, by simp⟩

/-- A price stays a price when blanks around it are removed. -/
theorem isPrice_normalize (now url : String)
    (h : ∀ v, r.get? "price" = some v → ∀ w, v.settle = .ok w → Listing.isPrice w = true) :
    ∀ v, (r.normalize now url).get? "price" = some v →
      ∀ w, v.settle = .ok w → Listing.isPrice w = true := by
  have hrule : ("price", Rule.price) ∈ rules now url := by simp [rules]
  have hkeeps : Rule.price.Keeps fun v => ∀ w, v.settle = .ok w → Listing.isPrice w = true := by
    refine Rule.keeps_price fun s hs => ?_
    simpa only [Json.settle, Except.ok.injEq, forall_eq', Listing.isPrice, Text.trim_trim] using hs
  rw [get?_normalize_of_mem hrule]
  exact hkeeps.value h

theorem Meets.alike_normalize (h : r.Meets) (now url : String) :
    Listing.Alike (Listing.ofFields r.fields) (Listing.ofFields (r.normalize now url).fields) := by
  have htext : ∀ key, (r.normalize now url).get? key = r.get? key →
      (r.normalize now url).fields.text? key = r.fields.text? key := by
    intro key hkey
    rw [get?, get?] at hkey
    rw [Fields.text?, Fields.text?, hkey]
  have hkept : ∀ key ∉ canonicalKeys, (r.normalize now url).fields.text? key = r.fields.text? key :=
    fun key hkey => htext key (r.get?_normalize hkey now url)
  -- the two keys that could be filled in have a text already
  obtain ⟨page, hpage, -⟩ := h.url
  obtain ⟨time, htime, -⟩ := h.capturedAt
  constructor
  case variations =>
    rw [variations_ofFields, variations_ofFields,
      variationItems_of_get? (get?_variations_normalize now url h.null_or_array)]
    refine Variation.forall₂_read_normalize fun item hitem => ?_
    obtain ⟨x, hx, -⟩ := h.read_variationItems item hitem
    exact ⟨x, hx⟩
  all_goals simp only [Listing.ofFields]
  case url =>
    exact htext "url" ((get?_normalize_of_fill List.mem_cons_self (by simp) hpage).trans hpage.symm)
  case status => exact hkept "status" (by decide)
  case capturedAt =>
    exact htext "captured_at" ((get?_normalize_of_fill (List.mem_cons_of_mem _ List.mem_cons_self) (by simp)
      htime).trans htime.symm)
  case notes => exact hkept "notes" (by decide)
  case error => exact hkept "error" (by decide)
  case title => exact hkept "title" (by decide)
  case description => exact hkept "description" (by decide)

/-- Bringing a record that keeps the contract into canonical form does not spoil it: it still keeps the
contract, and its listing is the same but for what the canonical form is about. -/
theorem validate_normalize {l : Listing} (h : r.validate = .ok l) (now url : String) :
    ∃ l', (r.normalize now url).validate = .ok l' ∧ Listing.Alike l l' := by
  have hmeets : r.Meets := Conforms.meets ⟨l, h⟩
  obtain ⟨hmembers, rfl, hviolations⟩ := validate_eq_ok.mp h
  obtain ⟨-, -, -, -, -, hprice, -⟩ := Listing.violations_eq_nil.mp hviolations
  have halike := hmeets.alike_normalize now url
  refine ⟨_, validate_eq_ok.mpr ⟨checkMember_normalize now url hmembers, rfl, ?_⟩, halike⟩
  refine halike.violations_eq_nil hviolations (Listing.forall_price_ofFields.mpr ?_)
  exact isPrice_normalize now url (Listing.forall_price_ofFields.mp hprice)

/-- Nulls, blanks around texts, and a variation written as the list of its values. -/
def loose : Record :=
  ⟨[("url", .string " page "), ("status", .string " needs_manual "), ("notes", .string "sold out"),
    ("captured_at", .string "2026-01-01T00:00:00Z"), ("error", .null), ("title", .null),
    ("currency", .string "  "), ("price", .string " 12.50 "), ("images", .null),
    ("variations", .array [.object [("title", .string " Red "), ("position", .null), ("images", .null)],
      .array [.string " Blue ", .number "1"]])]⟩

theorem validate_normalize_loose : ∃ l l', loose.validate = .ok l ∧
    (loose.normalize "2026-01-01T00:00:00Z" "other").validate = .ok l' ∧ Listing.Alike l l' := by
  have hvalid : loose.validate = .ok (Listing.ofFields loose.fields) := by decide +kernel
  obtain ⟨l', hvalid', halike⟩ := validate_normalize hvalid "2026-01-01T00:00:00Z" "other"
  exact ⟨_, l', hvalid, hvalid', halike⟩

end Record

end ListingCrawl
