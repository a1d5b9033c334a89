import ListingCrawl.Proofs.Artifact.Join

/-! What the files of a snapshot decide. The page state decides whether there is a record, which error there is
otherwise, and every value of the record but the images and the variations. The other files, which may be
missing or unreadable, or hold no lists, decide these two and nothing else; and a snapshot that was not taken
has the same record whatever the files are. -/

namespace ListingCrawl

/-- The status of a name has this name. -/
theorem Status.name_of_ofName? {s : String} {status : Status} (h : ofName? s = some status) :
    status.name = s := by
  have hname := List.find?_some h
  exact eq_of_beq hname

/-! ### Records that agree -/

namespace Record

variable {r r' : Record} {keys : List String} {key : String} {v w : Json}

/-- The same keys in the same order, and the same values but under some of them. -/
structure AgreeBut (keys : List String) (r r' : Record) : Prop where
  keys_eq : r.keys = r'.keys
  get?_eq : ∀ key ∉ keys, r.get? key = r'.get? key

theorem AgreeBut.refl (keys : List String) (r : Record) : AgreeBut keys r r :=
  ⟨rfl, fun _ _ => rfl⟩

theorem AgreeBut.contains_eq (h : AgreeBut keys r r') (key : String) :
    r.fields.contains key = r'.fields.contains key := by
  rw [Bool.eq_iff_iff, Fields.contains_iff_mem_keys, Fields.contains_iff_mem_keys]
  exact iff_of_eq (congrArg (key ∈ ·) h.keys_eq)

/-- Values under a key that does not count may differ. -/
theorem AgreeBut.insert (h : AgreeBut keys r r') (hkey : key ∈ keys) :
    AgreeBut keys (r.insert key v) (r'.insert key w) where
  keys_eq := by
    have hkeys : r.fields.keys = r'.fields.keys := h.keys_eq
    change (r.fields.insert key v).keys = (r'.fields.insert key w).keys
    -- where a key is put depends on the keys that are there, not on its value
    rw [Fields.keys_insert, Fields.keys_insert, h.contains_eq, hkeys]
  get?_eq other hother := by
    have hne : other ≠ key := fun heq => hother (heq ▸ hkey)
    rw [get?_insert_of_ne hne, get?_insert_of_ne hne, h.get?_eq other hother]

end Record

namespace Artifact

/-- The same error, or records that agree but for some keys. -/
inductive AgreeBut (keys : List String) :
    Except SnapshotError Record → Except SnapshotError Record → Prop
  | failed (e : SnapshotError) : AgreeBut keys (.error e) (.error e)
  | given {r r' : Record} : r.AgreeBut keys r' → AgreeBut keys (.ok r) (.ok r')

theorem AgreeBut.refl (keys : List String) (x : Except SnapshotError Record) : AgreeBut keys x x := by
  cases x with
  | error e => exact .failed e
  | ok r => exact .given (.refl keys r)

/-! ### Snapshots -/

namespace SnapshotPointer

variable {p : SnapshotPointer} {files files' : FileTree}

/-- The two keys whose values come from files that need not be there. -/
def listKeys : List String :=
  ["images", "variations"]

theorem core_congr (h : ∀ file, p.filePath? p.files.pageState = some file → files.read file = files'.read file) :
    p.core files = p.core files' := by
  unfold core
  cases hfile : p.filePath? p.files.pageState with
  | none => rfl
  | some file => simp only [h file hfile]

/-- Two sets of files fill the same record alike but for the lists. -/
theorem withFiles_agreeBut (p : SnapshotPointer) (files files' : FileTree) (core : CoreFields) (r : Record) :
    (p.withFiles files core r).AgreeBut listKeys (p.withFiles files' core r) :=
  ((Record.AgreeBut.refl listKeys _).insert (by decide)).insert (by decide)

/-- A snapshot that was not taken has no files. -/
theorem record_of_status_ne_ok (h : Text.trim p.status ≠ "ok") (files files' : FileTree) (now url : String) :
    p.record files now url = p.record files' now url := by
  have hname : Status.ofName? (Text.trim p.status) ≠ some .ok := fun hok =>
    h (Status.name_of_ofName? hok).symm
  unfold record
  cases hstatus : Status.ofName? (Text.trim p.status) with
  | none => rfl
  | some status =>
    cases status with
    | ok => exact absurd hstatus hname
    | needsManual => rfl
    | error => rfl

/-- Where the page state reads the same, other files make no difference to whether there is a record, to the
error if there is none, and to all values of the record but its images and variations; where the snapshot
was not taken, no file makes any. -/
theorem record_agreeBut (p : SnapshotPointer) (now url : String) :
    (∀ files files' : FileTree,
      (∀ file, p.filePath? p.files.pageState = some file → files.read file = files'.read file) →
      AgreeBut listKeys (p.record files now url) (p.record files' now url)) ∧
    (Text.trim p.status ≠ "ok" → ∃ outcome, ∀ files, p.record files now url = outcome) := by
  refine ⟨fun files files' hread => ?_, fun hstatus => ⟨_, fun files =>
    record_of_status_ne_ok hstatus files ⟨[], []⟩ now url⟩⟩
  by_cases hstatus : Text.trim p.status = "ok"
  · rw [record_of_status hstatus, record_of_status hstatus, ← core_congr hread]
    cases p.core files with
    | error e => exact .failed e
    | ok core => exact .given (withFiles_agreeBut p files files' core _)
  · rw [record_of_status_ne_ok hstatus files files']
    exact .refl listKeys _

/-- The same files, but the images are no document and the map is missing. -/
def damagedFiles : FileTree where
  workDir := []
  entries := (["run", "images.json"], .file (Octets.ofText "x")) ::
    shirtFiles.entries.filter fun e => e.1 ∉ [["run", "images.json"], ["run", "map.json"]]

theorem record_agreeBut_shirt :
    AgreeBut listKeys (shirt.record shirtFiles "t" "") (shirt.record damagedFiles "t" "") ∧
    ∃ outcome, ∀ files, ({ shirt with status := "error" } : SnapshotPointer).record files "t" "" = outcome := by
  have hread : ∀ file, shirt.filePath? shirt.files.pageState = some file →
      shirtFiles.read file = damagedFiles.read file := by
    intro file hfile
    cases hfile
    decide +kernel
  exact ⟨(record_agreeBut shirt "t" "").1 shirtFiles damagedFiles hread,
    (record_agreeBut _ "t" "").2 (by decide)⟩

end SnapshotPointer

end Artifact

end ListingCrawl
