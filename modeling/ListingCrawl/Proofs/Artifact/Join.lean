import ListingCrawl.Artifact.Snapshot
import ListingCrawl.Proofs.Record.Contract
import ListingCrawl.Proofs.Record.NormalForm

/-! What the files of a snapshot add up to. Each file of images or variations gives a list, which is empty
where there is none. The images of the record are those of the first list without repetitions; its variations
are those of the second, joined with the third by their titles, where the first match counts. Nothing else in
these files matters, so a list may be wrapped in an object or not. -/

namespace ListingCrawl.Artifact

/-! ### Lists -/

section Lists

variable {key : String} {content : Octets} {items : List Json}

/-- The content of a file is a list, or an object with a list under the key. -/
inductive HoldsList (key : String) (content : Octets) (items : List Json) : Prop
  | bare : Json.readDocument content = .ok (.array items) → HoldsList key content items
  | wrapped {fs : Fields} : Json.readDocument content = .ok (.object fs) →
      fs.get? key = some (.array items) → HoldsList key content items

theorem HoldsList.readList_eq (h : HoldsList key content items) : readList key content = items := by
  unfold readList
  cases h with
  | bare hdocument => simp only [hdocument, listOf]
  | wrapped hdocument hkey => simp only [hdocument, listOf, hkey]

/-- What is no list counts as an empty one. -/
theorem holdsList_or_nil (key : String) (content : Octets) :
    HoldsList key content (readList key content) ∨ readList key content = [] := by
  unfold readList
  split
  · next v hdocument =>
    cases v with
    | array items => exact .inl (.bare hdocument)
    | object fs =>
      rw [listOf]
      split
      · next items hkey => exact .inl (.wrapped hdocument hkey)
      · exact .inr rfl
    | _ => exact .inr rfl
  · exact .inr rfl

end Lists

/-! ### Items -/

section Items

variable {item : Json} {key first second text title image : String}

/-- Under the key of an item there is a text that is not blank; this is its trimmed form. -/
def HasTrimmed (item : Json) (key text : String) : Prop :=
  ∃ s, item.get? key = some (.string s) ∧ Text.isBlankText s = false ∧ Text.trim s = text

/-- Of two keys the second counts where the first has no text. -/
def HasEither (item : Json) (first second text : String) : Prop :=
  HasTrimmed item first text ∨ (∀ other, ¬HasTrimmed item first other) ∧ HasTrimmed item second text

/-- An item of the map that gives an image to a variation of this title. -/
def Pictures (item : Json) (title image : String) : Prop :=
  HasEither item "text" "variation" title ∧ HasEither item "imageUrl" "image" image

/-- An integer of 64 bits as the position, or zero where there is none. -/
def HasPosition (item : Json) (n : Int) : Prop :=
  (∃ token, item.get? "position" = some (.number token) ∧ Json.int64? token = some n) ∨
    (∀ token, item.get? "position" = some (.number token) → Json.int64? token = none) ∧ n = 0

theorem hasTrimmed_iff : HasTrimmed item key text ↔
    ((item.get? key).bind fun t => t.text?.bind Text.trimmed?) = some text := by
  simp only [HasTrimmed, ← Text.trimmed?_eq_some_iff]
  cases item.get? key with
  | none => simp
  | some v =>
    cases v <;> simp [Json.text?]

theorem firstText?_pair : firstText? item [first, second] = some text ↔
    HasEither item first second text := by
  have hnone : (∀ other, ¬HasTrimmed item first other) ↔
      ((item.get? first).bind fun t => t.text?.bind Text.trimmed?) = none := by
    simp only [hasTrimmed_iff, Option.eq_none_iff_forall_ne_some, ne_eq]
  rw [HasEither, hnone, hasTrimmed_iff, hasTrimmed_iff, firstText?]
  simp only [List.findSome?_cons, List.findSome?_nil]
  cases (item.get? first).bind fun t => t.text?.bind Text.trimmed? with
  | some t => simp
  | none =>
    cases (item.get? second).bind fun t => t.text?.bind Text.trimmed? <;> simp

theorem imageOfChoice?_eq_some : imageOfChoice? item = some (title, image) ↔
    Pictures item title image := by
  simp only [imageOfChoice?, Pictures, ← firstText?_pair]
  cases firstText? item ["text", "variation"] <;> cases firstText? item ["imageUrl", "image"] <;>
    simp [bind, pure]

theorem hasPosition_iff {n : Int} : HasPosition item n ↔ (match item.get? "position" with
    | some (.number token) => (Json.int64? token).getD 0
    | _ => 0) = n := by
  unfold HasPosition
  rcases item.get? "position" with _ | (_ | _ | token | _ | _ | _)
  case some.number =>
    simp only [Option.some.injEq, Json.number.injEq, exists_eq_left', forall_eq']
    cases Json.int64? token <;> simp [eq_comm]
  all_goals simp [eq_comm]

theorem Choice.ofJson?_eq_some {c : Choice} : Choice.ofJson? item = some c ↔
    HasTrimmed item "text" c.title ∧ HasPosition item c.position := by
  obtain ⟨title, n⟩ := c
  simp only [hasTrimmed_iff, hasPosition_iff, Choice.ofJson?, Option.bind_eq_bind]
  cases item.get? "text" with
  | none => simp
  | some v =>
    cases v with
    | string s =>
      simp only [Option.bind_some, Json.text?]
      cases Text.trimmed? s with
      | none => simp
      | some t =>
        rw [Option.bind_some, Option.some_inj]
        exact Option.some_inj.trans (iff_of_eq (Choice.mk.injEq _ _ _ _))
    | _ => simp [Json.text?]

/-- Only an item without a text is left out. -/
theorem Choice.ofJson?_eq_none : Choice.ofJson? item = none ↔ ∀ text, ¬HasTrimmed item "text" text := by
  rw [Option.eq_none_iff_forall_ne_some]
  constructor
  · intro h text htext
    exact h ⟨text, _⟩ (ofJson?_eq_some.mpr ⟨htext, hasPosition_iff.mpr rfl⟩)
  · intro h c hc
    exact h c.title (ofJson?_eq_some.mp hc).1

end Items

/-! ### The join -/

section Join

variable {map items : List Json} {item : Json} {title image : String}

/-- The image of a title is that of the first item of the map that gives it one. -/
def FirstImage (map : List Json) (title image : String) : Prop :=
  ∃ before item after, map = before ++ item :: after ∧ Pictures item title image ∧
    ∀ other ∈ before, ∀ s, ¬Pictures other title s

/-- The entry of an item with a text: with the image of its title, if it has one. -/
inductive Joined (map : List Json) (item : Json) : Json → Prop
  | pictured {title image : String} {n : Int} : HasTrimmed item "text" title → HasPosition item n →
      FirstImage map title image →
      Joined map item (.object [("title", .string title), ("position", .number (toString n)),
        ("image", .string image), ("images", .array [.string image])])
  | plain {title : String} {n : Int} : HasTrimmed item "text" title → HasPosition item n →
      (∀ other ∈ map, ∀ image, ¬Pictures other title image) →
      Joined map item (.object [("title", .string title), ("position", .number (toString n)),
        ("images", .array [])])

/-- The entries of a list, item by item; an item without a text has none. -/
inductive Entries (map : List Json) : List Json → List Json → Prop
  | nil : Entries map [] []
  | joined {item entry : Json} {items entries : List Json} : Joined map item entry →
      Entries map items entries → Entries map (item :: items) (entry :: entries)
  | skipped {item : Json} {items entries : List Json} : (∀ text, ¬HasTrimmed item "text" text) →
      Entries map items entries → Entries map (item :: items) entries

theorem firstImage_cons : FirstImage (item :: map) title image ↔
    Pictures item title image ∨ (∀ s, ¬Pictures item title s) ∧ FirstImage map title image := by
  constructor
  · rintro ⟨before, found, after, heq, hfound, hbefore⟩
    cases before with
    | nil =>
      cases heq
      exact .inl hfound
    | cons first before =>
      cases heq
      obtain ⟨hfirst, hbefore⟩ := List.forall_mem_cons.mp hbefore
      exact .inr ⟨hfirst, before, found, after, rfl, hfound, hbefore⟩
  · rintro (hitem | ⟨hitem, before, found, after, rfl, hfound, hbefore⟩)
    · exact ⟨[], item, map, rfl, hitem, by simp⟩
    · exact ⟨item :: before, found, after, rfl, hfound, List.forall_mem_cons.mpr ⟨hitem, hbefore⟩⟩

theorem imageOfChoice?_eq_none : imageOfChoice? item = none ↔ ∀ title image, ¬Pictures item title image := by
  simp [Option.eq_none_iff_forall_ne_some, Prod.forall, imageOfChoice?_eq_some]

/-- An item of the map pictures at most one title, with one image. -/
theorem pictures_iff_of_eq_some {t i : String} (h : imageOfChoice? item = some (t, i)) :
    Pictures item title image ↔ t = title ∧ i = image := by
  rw [← imageOfChoice?_eq_some, h, Option.some.injEq, Prod.mk.injEq]

/-- Looking a title up finds the first match. -/
theorem lookup_filterMap_eq_some :
    (map.filterMap imageOfChoice?).lookup title = some image ↔ FirstImage map title image := by
  induction map with
  | nil =>
    refine ⟨nofun, ?_⟩
    rintro ⟨before, item, after, heq, -⟩
    simp at heq
  | cons item map ih =>
    rw [firstImage_cons, ← ih]
    cases h : imageOfChoice? item with
    | none =>
      -- no entry of the map stands for this item, and no title finds it
      have hno := imageOfChoice?_eq_none.mp h
      simp [h, hno]
    | some p =>
      obtain ⟨t, i⟩ := p
      simp only [List.filterMap_cons_some h, List.lookup_cons, pictures_iff_of_eq_some h]
      by_cases ht : t = title
      · simp [ht]
      · simp [ht, beq_false_of_ne (Ne.symm ht)]

theorem lookup_filterMap_eq_none : (map.filterMap imageOfChoice?).lookup title = none ↔
    ∀ item ∈ map, ∀ image, ¬Pictures item title image := by
  simp only [List.lookup_eq_none_iff, List.mem_filterMap, ← imageOfChoice?_eq_some]
  constructor
  · intro h item hitem image himage
    simpa using h (title, image) ⟨item, hitem, himage⟩
  · rintro h ⟨t, image⟩ ⟨item, hitem, himage⟩
    rw [bne_iff_ne]
    rintro rfl
    exact h item hitem image himage

/-- An item with a text is written with the image of its title. -/
theorem joined_toJson {c : Choice} (h : Choice.ofJson? item = some c) :
    Joined map item (c.toJson (map.filterMap imageOfChoice?)) := by
  obtain ⟨htext, hposition⟩ := Choice.ofJson?_eq_some.mp h
  unfold Choice.toJson
  cases hlookup : (map.filterMap imageOfChoice?).lookup c.title with
  | some image => exact .pictured htext hposition (lookup_filterMap_eq_some.mp hlookup)
  | none => exact .plain htext hposition (lookup_filterMap_eq_none.mp hlookup)

theorem entries_filterMap (map items : List Json) : Entries map items
    ((items.filterMap Choice.ofJson?).map (Choice.toJson (map.filterMap imageOfChoice?))) := by
  induction items with
  | nil => exact .nil
  | cons item items ih =>
    cases h : Choice.ofJson? item with
    | none =>
      rw [List.filterMap_cons_none h]
      exact .skipped (Choice.ofJson?_eq_none.mp h) ih
    | some c =>
      rw [List.filterMap_cons_some h, List.map_cons]
      exact .joined (joined_toJson h) ih

end Join

/-! ### Records -/

namespace SnapshotPointer

variable {p : SnapshotPointer} {files : FileTree} {name key : String} {items : List Json}

/-- The list that a file of the snapshot gives: the one that it holds, or an empty one if it holds none or
cannot be read. -/
inductive Gives (p : SnapshotPointer) (files : FileTree) (name key : String) : List Json → Prop
  | held {file : Path} {content : Octets} {items : List Json} : p.filePath? name = some file →
      files.read file = .ok content → HoldsList key content items → Gives p files name key items
  | nothing : (∀ file content items, p.filePath? name = some file → files.read file = .ok content →
      ¬HoldsList key content items) → Gives p files name key []

/-- The list of a file, as it is read. -/
def listIn (p : SnapshotPointer) (files : FileTree) (name key : String) : List Json :=
  ((p.readOptional? files name).map (readList key)).getD []

theorem listIn_eq_of_read {file : Path} {content : Octets} (hfile : p.filePath? name = some file)
    (hread : files.read file = .ok content) : p.listIn files name key = readList key content := by
  rw [listIn, readOptional?, hfile, Option.bind_some, hread]
  rfl

theorem listIn_eq_nil (h : ∀ file content, p.filePath? name = some file →
    files.read file ≠ .ok content) : p.listIn files name key = [] := by
  rw [listIn, readOptional?]
  cases hfile : p.filePath? name with
  | none => rfl
  | some file =>
    cases hread : files.read file with
    | ok content => exact absurd hread (h file content hfile)
    | error e =>
      rw [Option.bind_some, hread]
      rfl

theorem listIn_eq_nil_of_not_holdsList (h : ∀ file content items, p.filePath? name = some file →
    files.read file = .ok content → ¬HoldsList key content items) : p.listIn files name key = [] := by
  by_cases hcontent : ∃ file content, p.filePath? name = some file ∧ files.read file = .ok content
  · obtain ⟨file, content, hfile, hread⟩ := hcontent
    rw [listIn_eq_of_read hfile hread]
    exact (holdsList_or_nil key content).resolve_left (h file content _ hfile hread)
  · exact listIn_eq_nil fun file content hfile hread => hcontent ⟨file, content, hfile, hread⟩

/-- Each file gives one list, and that is the one which is read. -/
theorem gives_iff : p.Gives files name key items ↔ p.listIn files name key = items := by
  constructor
  · intro h
    cases h with
    | held hfile hread hlist => rw [listIn_eq_of_read hfile hread, hlist.readList_eq]
    | nothing hnone => exact listIn_eq_nil_of_not_holdsList hnone
  · rintro rfl
    by_cases h : ∃ file content items, p.filePath? name = some file ∧ files.read file = .ok content ∧
        HoldsList key content items
    · obtain ⟨file, content, items, hfile, hread, hlist⟩ := h
      rw [listIn_eq_of_read hfile hread, hlist.readList_eq]
      exact .held hfile hread hlist
    · have hnone : ∀ file content items, p.filePath? name = some file →
          files.read file = .ok content → ¬HoldsList key content items :=
        fun file content items hfile hread hlist => h ⟨file, content, items, hfile, hread, hlist⟩
      rw [listIn_eq_nil_of_not_holdsList hnone]
      exact .nothing hnone

theorem images_eq (p : SnapshotPointer) (files : FileTree) : p.images files =
    Images.ofJson (.array (p.listIn files p.files.overlayImages "images")) := by
  unfold images listIn
  cases p.readOptional? files p.files.overlayImages <;> rfl

theorem choices_eq (p : SnapshotPointer) (files : FileTree) : p.choices files =
    (p.listIn files p.files.variations "variations").filterMap Choice.ofJson? := by
  unfold choices listIn
  cases p.readOptional? files p.files.variations <;> rfl

theorem imageMap_eq (p : SnapshotPointer) (files : FileTree) : p.imageMap files =
    (p.listIn files p.files.variationImageMap "map").filterMap imageOfChoice? := by
  unfold imageMap listIn
  cases p.readOptional? files p.files.variationImageMap <;> rfl

/-- The files matter only for what their lists are. -/
theorem withFiles_congr {files' : FileTree} {core : CoreFields} {r : Record}
    (himages : p.listIn files p.files.overlayImages "images" =
      p.listIn files' p.files.overlayImages "images")
    (hvariations : p.listIn files p.files.variations "variations" =
      p.listIn files' p.files.variations "variations")
    (hmap : p.listIn files p.files.variationImageMap "map" =
      p.listIn files' p.files.variationImageMap "map") :
    p.withFiles files core r = p.withFiles files' core r := by
  rw [withFiles, withFiles, images_eq, images_eq, choices_eq, choices_eq, imageMap_eq, imageMap_eq, himages,
    hvariations, hmap]

theorem get?_withFiles_images {core : CoreFields} {r : Record} :
    (p.withFiles files core r).get? "images" = some (.array
      (((p.listIn files p.files.overlayImages "images").filterMap fun v =>
        v.text?.bind Text.trimmed?).eraseDups.map Json.string)) := by
  rw [withFiles, Record.get?_insert_of_ne (by decide), Record.get?, Record.insert, Fields.get?_insert_self,
    images_eq, Images.ofJson, Images.distinct, Images.toJson, Images.items]

theorem get?_withFiles_variations {core : CoreFields} {r : Record} :
    (p.withFiles files core r).get? "variations" = some (.array
      (((p.listIn files p.files.variations "variations").filterMap Choice.ofJson?).map
        (Choice.toJson ((p.listIn files p.files.variationImageMap "map").filterMap imageOfChoice?)))) := by
  rw [withFiles, Record.get?, Record.insert, Fields.get?_insert_self, choices_eq, imageMap_eq]

theorem record_of_status (hstatus : Text.trim p.status = "ok") (now url : String) :
    p.record files now url =
      (p.core files).map fun core => p.withFiles files core (p.header now url) := by
  have hname : Status.ofName? "ok" = some .ok := by decide
  rw [record, hstatus, hname]

theorem record_of_ok {core : CoreFields} (hstatus : Text.trim p.status = "ok")
    (hcore : p.core files = .ok core) (now url : String) :
    p.record files now url = .ok (p.withFiles files core (p.header now url)) := by
  rw [record_of_status hstatus, hcore]
  rfl

/-- The record of a snapshot whose page state has the core fields: its images and its variations are those of
the lists in the files, and nothing but these lists matters in the files. -/
theorem record_join {core : CoreFields} (hstatus : Text.trim p.status = "ok")
    (hcore : p.core files = .ok core) (now url : String) :
    ∃ images variations map r, p.Gives files p.files.overlayImages "images" images ∧
      p.Gives files p.files.variations "variations" variations ∧
      p.Gives files p.files.variationImageMap "map" map ∧
      p.record files now url = .ok r ∧
      r.get? "images" = some (.array
        ((images.filterMap fun v => v.text?.bind Text.trimmed?).eraseDups.map Json.string)) ∧
      (∃ entries, r.get? "variations" = some (.array entries) ∧ Entries map variations entries) ∧
      ∀ files', p.core files' = .ok core → p.Gives files' p.files.overlayImages "images" images →
        p.Gives files' p.files.variations "variations" variations →
        p.Gives files' p.files.variationImageMap "map" map → p.record files' now url = .ok r := by
  refine ⟨_, _, _, _, gives_iff.mpr rfl, gives_iff.mpr rfl, gives_iff.mpr rfl,
    record_of_ok hstatus hcore now url, get?_withFiles_images,
    ⟨_, get?_withFiles_variations, entries_filterMap _ _⟩, ?_⟩
  intro files' hcore' himages hvariations hmap
  rw [record_of_ok hstatus hcore' now url, withFiles_congr (gives_iff.mp himages) (gives_iff.mp hvariations)
    (gives_iff.mp hmap)]

/-- Files in which an image and a title are repeated, and one text is blank. -/
def shirtFiles : FileTree where
  workDir := []
  entries := [(["run"], .directory),
    (["run", "page.json"], .file (Octets.ofText
      "\x7b\"title\":\"T\",\"description\":\"D\",\"currency\":\"TWD\",\"price\":1\x7d")),
    (["run", "images.json"], .file (Octets.ofText "\x7b\"images\":[\" b \",1,\"a\",\"\",\"b\"]\x7d")),
    (["run", "variations.json"], .file (Octets.ofText
      ("[\x7b\"text\":\" red\",\"position\":2\x7d,\x7b\"text\":\" \"\x7d," ++
        "\x7b\"text\":\"blue\",\"position\":\"1\"\x7d]"))),
    (["run", "map.json"], .file (Octets.ofText
      ("\x7b\"map\":[\x7b\"text\":\" \",\"variation\":\"red\",\"image\":\"r\"\x7d," ++
        "\x7b\"text\":\"red\",\"imageUrl\":\"s\"\x7d]\x7d")))]

def shirt : SnapshotPointer :=
  ⟨"u", " ok", "", "", "run",
    ⟨"", "", "page.json", "images.json", "variations.json", "map.json"⟩, "", ""⟩

def shirtEntries : List Json :=
  [.object [("title", .string "red"), ("position", .number "2"), ("image", .string "r"),
      ("images", .array [.string "r"])],
    .object [("title", .string "blue"), ("position", .number "0"), ("images", .array [])]]

theorem record_join_shirt : ∃ variations map r,
    shirt.Gives shirtFiles "variations.json" "variations" variations ∧
    shirt.Gives shirtFiles "map.json" "map" map ∧ Entries map variations shirtEntries ∧
    shirt.record shirtFiles "t" "" = .ok r ∧ r.get? "images" = some (.array [.string "b", .string "a"]) ∧
    r.get? "variations" = some (.array shirtEntries) := by
  have hcore : shirt.core shirtFiles = .ok ⟨"T", "D", "TWD", .number "1"⟩ := by decide +kernel
  have hvalues : ∃ r, shirt.record shirtFiles "t" "" = .ok r ∧
      r.get? "images" = some (.array [.string "b", .string "a"]) ∧
      r.get? "variations" = some (.array shirtEntries) := by
    refine ⟨_, record_of_ok (by decide) hcore "t" "", ?_⟩
    decide +kernel
  obtain ⟨images, variations, map, r, -, hvariations, hmap, hrecord, -, ⟨entries, hentries, hjoined⟩, -⟩ :=
    record_join (by decide) hcore "t" ""
  obtain ⟨r', hrecord', himages, hentries'⟩ := hvalues
  cases hrecord.symm.trans hrecord'
  cases hentries.symm.trans hentries'
  exact ⟨variations, map, r, hvariations, hmap, hjoined, hrecord, himages, hentries⟩

end SnapshotPointer

end ListingCrawl.Artifact
