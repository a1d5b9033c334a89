import ListingCrawl.Job.Run
import ListingCrawl.Proofs.Files.Directories
import ListingCrawl.Proofs.Files.Writing
import ListingCrawl.Proofs.Time.Instant

/-! Storing a record. Its file and the temporary one have names of their own in the output directory. What
is stored does not decide whether and where it is stored; a record that was stored is read back from its
path, and its file is in the output directory itself. -/

namespace ListingCrawl

/-! ### Names -/

/-- A name of letters, digits and `-`, `_` and `.` is one part of a path. -/
theorem isPlainName_of_chars {n : String} (hempty : n ≠ "") (hhere : n ≠ ".") (hup : n ≠ "..")
    (hchars : ∀ c ∈ n.toList, Request.isRunIdChar c = true) : IsPlainName n where
  ne_empty := hempty
  ne_here := hhere
  ne_up := hup
  slash h := absurd (hchars _ h) (by decide)
  nul h := absurd (hchars _ h) (by decide)

/-- A run id that was checked is the name of a directory. -/
theorem isPlainName_of_checkRunId {runId : String} (hne : runId ≠ "")
    (h : Request.checkRunId runId = .ok ()) : IsPlainName runId := by
  unfold Request.checkRunId at h
  split_ifs at h with hdots
  rw [not_or] at hdots
  split at h
  · cases h
  · next hfind =>
    rw [List.find?_eq_none] at hfind
    exact isPlainName_of_chars hne hdots.1 hdots.2 fun c hc => by simpa using hfind c hc

theorem Files.isPlainName_artifacts : IsPlainName "artifacts" :=
  isPlainName_of_chars (by decide) (by decide) (by decide) (List.all_eq_true.mp (by decide))

theorem Files.isPlainName_finalRecordName : IsPlainName finalRecordName :=
  isPlainName_of_chars (by decide) (by decide) (by decide) (List.all_eq_true.mp (by decide))

namespace ResultFile

open Request (isRunIdChar)

theorem isRunIdChar_digitChar {n : Nat} (h : n < 16) : isRunIdChar (Nat.digitChar n) = true := by
  match n with
  | 0 | 1 | 2 | 3 | 4 | 5 | 6 | 7 | 8 | 9 | 10 | 11 | 12 | 13 | 14 | 15 => decide
  | n + 16 => omega

theorem chars_hexTail (width n : Nat) : ∀ c ∈ hexTail width n, isRunIdChar c = true := by
  induction width generalizing n with
  | zero => simp [hexTail]
  | succ width ih =>
    intro c hc
    rw [hexTail, List.mem_append, List.mem_singleton] at hc
    obtain hc | rfl := hc
    · exact ih _ c hc
    · exact isRunIdChar_digitChar (Nat.mod_lt n (by decide))

theorem chars_padded (width n : Nat) : ∀ c ∈ Time.padded width n, isRunIdChar c = true := by
  intro c hc
  have hdigit := Time.isDigit_padded width n c hc
  simp [isRunIdChar, Char.isAlphanum, hdigit]

theorem chars_stamp (t : Time.Instant) : ∀ c ∈ t.stamp.toList, isRunIdChar c = true := by
  simp only [Time.Instant.stamp, String.toList_ofList, List.forall_mem_append, List.forall_mem_cons]
  exact ⟨⟨⟨⟨⟨⟨chars_padded 4 _, chars_padded 2 _⟩, chars_padded 2 _⟩, by decide, chars_padded 2 _⟩,
    chars_padded 2 _⟩, chars_padded 2 _⟩, by decide, List.forall_mem_nil _⟩

theorem chars_baseName (now : Time.Instant) (source : Option Marketplace) (fresh : Nat) :
    ∀ c ∈ (baseName now source fresh).toList, isRunIdChar c = true := by
  have hsource : ∀ c ∈ ((source.map Marketplace.name).getD "unknown").toList, isRunIdChar c = true := by
    refine List.all_eq_true.mp ?_
    cases source with
    | none => decide
    | some m => cases m <;> decide
  simp only [baseName, String.toList_append, String.toList_ofList, List.forall_mem_append]
  have hunderscore : ∀ c ∈ "_".toList, isRunIdChar c = true := List.all_eq_true.mp (by decide)
  exact ⟨⟨⟨⟨chars_stamp now, hunderscore⟩, hsource⟩, hunderscore⟩, chars_hexTail 8 fresh⟩

/-- A name with an underscore in it is none of those that do not stand for themselves. -/
theorem isPlainName_of_base {now : Time.Instant} {source : Option Marketplace} {fresh : Nat}
    {ending : String} (hending : ∀ c ∈ ending.toList, isRunIdChar c = true) :
    IsPlainName (baseName now source fresh ++ ending) := by
  have hunderscore : '_' ∈ (baseName now source fresh ++ ending).toList := by
    simp [baseName]
  have hne : ∀ n : String, '_' ∉ n.toList → baseName now source fresh ++ ending ≠ n := by
    rintro n hn rfl
    exact hn hunderscore
  refine isPlainName_of_chars (hne _ (by decide)) (hne _ (by decide)) (hne _ (by decide)) ?_
  rw [String.toList_append, List.forall_mem_append]
  exact ⟨chars_baseName now source fresh, hending⟩

theorem isPlainName_file (now : Time.Instant) (source : Option Marketplace) (fresh : Nat) :
    IsPlainName (baseName now source fresh ++ ".json") :=
  isPlainName_of_base (List.all_eq_true.mp (by decide))

theorem isPlainName_temporary (now : Time.Instant) (source : Option Marketplace) (fresh : Nat) :
    IsPlainName (baseName now source fresh ++ ".tmp." ++ String.ofList (hexTail 32 fresh)) := by
  have hending : ∀ c ∈ (".tmp." ++ String.ofList (hexTail 32 fresh)).toList, isRunIdChar c = true := by
    simp only [String.toList_append, String.toList_ofList, List.forall_mem_append]
    exact ⟨List.all_eq_true.mp (by decide), chars_hexTail 32 fresh⟩
  rw [String.append_assoc]
  exact isPlainName_of_base hending

/-! ### Writing by way of a temporary file -/

/-- Whether and where a file is written, whatever is written: not at all, only at its temporary place, or
from there to its own. -/
inductive Course where
  | refused (e : StoreError)
  | left (place : Location) (e : StoreError)
  | moved (place final : Location)

namespace Course

/-- What a course leaves of the files if this is written. -/
def leaves (t : FileTree) (c : Octets) : Course → FileTree
  | refused _ => t
  | left place _ => t.set place (.file c)
  | moved place final => ((t.set place (.file c)).remove place).set final (.file c)

def result : Course → Except StoreError Unit
  | refused e => .error e
  | left _ e => .error e
  | moved _ _ => .ok ()

/-- Where there is then what was written. -/
def place? : Course → Option Location
  | refused _ => none
  | left place _ => some place
  | moved _ final => some final

end Course

/-- The course of writing a file by way of a temporary one. -/
def courseVia (t : FileTree) (temporary file : Path) : Course :=
  match t.filePlace temporary with
  | .error e => .refused (.write temporary e)
  | .ok place =>
    match (t.set place (.file [])).filePlace file with
    | .error e => .left place (.rename file e)
    | .ok final => .moved place final

variable {t : FileTree} {outDir file : Path} {temporary name : String} {c c' : Octets} {l : Location}

/-- What is written does not decide how writing goes. -/
theorem writeVia_eq (hout : outDir.text ≠ "") (htemporary : IsPlainName temporary)
    (hname : IsPlainName name) (c : Octets) :
    writeVia t (outDir.join ⟨temporary⟩) (outDir.join ⟨name⟩) c =
      let course := courseVia t (outDir.join ⟨temporary⟩) (outDir.join ⟨name⟩)
      (course.result, course.leaves t c) := by
  unfold writeVia courseVia
  rw [FileTree.write_eq]
  cases hplace : t.filePlace (outDir.join ⟨temporary⟩) with
  | error e => rfl
  | ok place =>
    obtain ⟨dir, hslot, rfl⟩ := (FileTree.filePlace_join hout htemporary).mp hplace
    have hroot := FileTree.ne_root_of_ne_directory hslot.free
    have hshape := FileTree.sameShape_set (t := t) hroot [] c
    dsimp only [Except.map]
    rw [FileTree.rename_eq (hslot.locate_set hout htemporary c) (FileTree.entry?_set_file hslot.free c),
      hshape.filePlace_join hout hname]
    cases (t.set (dir ++ [temporary]) (.file [])).filePlace (outDir.join ⟨name⟩) <;> rfl

theorem courseVia_place {temporary : Path} (h : (courseVia t temporary file).place? = some l) :
    l ≠ [] := by
  unfold courseVia at h
  split at h
  · cases h
  · next place hplace =>
    split at h
    · cases h
      exact FileTree.ne_root_of_ne_directory (FileTree.filePlace_eq_ok.mp hplace).2
    · next final hfinal =>
      cases h
      exact FileTree.ne_root_of_ne_directory (FileTree.filePlace_eq_ok.mp hfinal).2

/-- The file is written to its own place if all goes well. -/
theorem courseVia_moved {temporary : Path} {place final : Location}
    (h : courseVia t temporary file = .moved place final) :
    t.filePlace temporary = .ok place ∧ (t.set place (.file [])).filePlace file = .ok final := by
  unfold courseVia at h
  split at h
  · cases h
  · next hplace =>
    split at h
    · cases h
    · next hfinal =>
      cases h
      exact ⟨hplace, hfinal⟩

/-- The course of writing a file with the directories above it, and the files at its start. -/
def courseBelow (t : FileTree) (temporary file : Path) : Course × FileTree :=
  match file.parent? with
  | none => (.refused (.noParent file), t)
  | some dir =>
    match t.makeDirectories dir with
    | (.error e, t) => (.refused (.createParent dir e), t)
    | (.ok (), t) => (courseVia t temporary file, t)

theorem courseBelow_place {temporary : Path} (h : (courseBelow t temporary file).1.place? = some l) :
    l ≠ [] := by
  unfold courseBelow at h
  split at h
  · cases h
  · split at h
    · cases h
    · exact courseVia_place h

theorem writeBelow_eq (hout : outDir.text ≠ "") (htemporary : IsPlainName temporary)
    (hname : IsPlainName name) (c : Octets) :
    writeBelow t (outDir.join ⟨temporary⟩) (outDir.join ⟨name⟩) c =
      let (course, t) := courseBelow t (outDir.join ⟨temporary⟩) (outDir.join ⟨name⟩)
      (course.result, course.leaves t c) := by
  unfold writeBelow courseBelow
  cases (outDir.join ⟨name⟩).parent? with
  | none => rfl
  | some dir =>
    dsimp only
    generalize t.makeDirectories dir = made
    obtain ⟨result, t⟩ := made
    cases result with
    | error e => rfl
    | ok => exact writeVia_eq hout htemporary hname c

/-! ### What is written -/

namespace Course

variable {course : Course}

@[simp] theorem workDir_leaves : (course.leaves t c).workDir = t.workDir := by
  cases course <;> rfl

/-- Elsewhere it makes no difference what is written. -/
theorem leaves_of_ne (h : course.place? ≠ some l) :
    FileTree.entry? (course.leaves t c) l = FileTree.entry? (course.leaves t c') l := by
  cases course with
  | refused e => rfl
  | left place e =>
    have hne : l ≠ place := fun heq => h (heq ▸ rfl)
    rw [leaves, FileTree.entry?_set_of_ne hne, leaves, FileTree.entry?_set_of_ne hne]
  | moved place final =>
    have hne : l ≠ final := fun heq => h (heq ▸ rfl)
    rw [leaves, FileTree.entry?_set_of_ne hne, leaves, FileTree.entry?_set_of_ne hne]
    by_cases hwithin : place <+: l
    · by_cases hroot : l = []
      · rw [hroot]
        rfl
      · rw [FileTree.entry?_remove hroot, FileTree.entry?_remove hroot, FileTree.isWithin_iff.mpr hwithin]
        rfl
    · have hplace : l ≠ place := fun heq => hwithin (heq ▸ List.prefix_rfl)
      rw [FileTree.entry?_remove_outside hwithin, FileTree.entry?_remove_outside hwithin,
        FileTree.entry?_set_of_ne hplace, FileTree.entry?_set_of_ne hplace]

theorem leaves_place (hroot : l ≠ []) (h : course.place? = some l) :
    FileTree.entry? (course.leaves t c) l = some (.file c) := by
  cases course with
  | refused e => cases h
  | left place e =>
    cases h
    exact FileTree.entry?_set_self hroot
  | moved place final =>
    cases h
    exact FileTree.entry?_set_self hroot

end Course

/-- The file is in the directory itself and holds this. -/
structure Keeps (t : FileTree) (outDir file : Path) (c : Octets) : Prop where
  directly : ∃ dir name, t.locate outDir = .ok dir ∧ t.entry? dir = some .directory ∧
    IsPlainName name ∧ file = outDir.join ⟨name⟩ ∧ t.locate file = .ok (dir ++ [name])
  read : t.read file = .ok c

/-- What was moved to its own place stands there. -/
theorem keeps_moved (hout : outDir.text ≠ "") (htemporary : IsPlainName temporary)
    (hname : IsPlainName name) {place final : Location}
    (h : courseVia t (outDir.join ⟨temporary⟩) (outDir.join ⟨name⟩) = .moved place final) (c : Octets) :
    Keeps ((Course.moved place final).leaves t c) outDir (outDir.join ⟨name⟩) c ∧
      ((Course.moved place final).leaves t c).locate (outDir.join ⟨name⟩) = .ok final := by
  obtain ⟨hplace, hfinal⟩ := courseVia_moved h
  obtain ⟨dir, hslot, rfl⟩ := (FileTree.filePlace_join hout htemporary).mp hplace
  obtain ⟨dir', hslot', rfl⟩ := (FileTree.filePlace_join hout hname).mp hfinal
  obtain rfl : dir' = dir := Except.ok.inj (hslot'.leads.symm.trans (hslot.leads_set []))
  have hroot := FileTree.ne_root_of_ne_directory hslot.free
  have hthere := (FileTree.sameShape_set (t := t) hroot [] c).slot hslot'
  have hfile : FileTree.entry? (t.set (dir' ++ [temporary]) (.file c)) (dir' ++ [temporary]) ≠ some .directory := by
    rw [FileTree.entry?_set_file hslot.free]
    exact nofun
  have hout' := FileTree.not_within_concat dir' temporary
  obtain ⟨hleads, hdir⟩ := hthere.directory_moved hfile hout' c
  have hlocate := (FileTree.locate_join_eq_ok hout hname).mpr ⟨dir', hleads, hdir, hslot'.size, rfl⟩
  exact ⟨⟨⟨dir', name, hleads, hdir, hname, rfl, hlocate⟩,
    hthere.read_moved hout hname hfile hout' c⟩, hlocate⟩

theorem courseBelow_eq_ok (hout : outDir.text ≠ "") (htemporary : IsPlainName temporary)
    (hname : IsPlainName name)
    (hok : (courseBelow t (outDir.join ⟨temporary⟩) (outDir.join ⟨name⟩)).1.result = .ok ()) :
    let x := courseBelow t (outDir.join ⟨temporary⟩) (outDir.join ⟨name⟩)
    ∃ final, x.1.place? = some final ∧ ∀ c, Keeps (x.1.leaves x.2 c) outDir (outDir.join ⟨name⟩) c ∧
      (x.1.leaves x.2 c).locate (outDir.join ⟨name⟩) = .ok final := by
  unfold courseBelow at hok ⊢
  cases hparent : (outDir.join ⟨name⟩).parent? with
  | none => simp [hparent, Course.result] at hok
  | some dir =>
    rw [hparent] at hok
    dsimp only at hok ⊢
    generalize t.makeDirectories dir = made at hok ⊢
    obtain ⟨result, t⟩ := made
    cases result with
    | error e => cases hok
    | ok =>
      dsimp only at hok ⊢
      cases hcourse : courseVia t (outDir.join ⟨temporary⟩) (outDir.join ⟨name⟩) with
      | refused e => simp [hcourse, Course.result] at hok
      | left place e => simp [hcourse, Course.result] at hok
      | moved place final => exact ⟨final, rfl, keeps_moved hout htemporary hname hcourse⟩

/-! ### Storing a record -/

variable {α : Type} {source : Option Marketplace} {r : Record} {w : World α}

/-- The course of storing a record now, and the files at its start. -/
def courseOf (outDir : Path) (source : Option Marketplace) (w : World α) : Course × FileTree :=
  let base := baseName w.now source w.fresh
  courseBelow w.files (temporaryPath outDir base w.fresh) (path outDir base)

theorem store_eq (hout : outDir.text ≠ "") (source : Option Marketplace) (r : Record) (w : World α) :
    store outDir source r w =
      let (course, t) := courseOf outDir source w
      (course.result.map fun _ => path outDir (baseName w.now source w.fresh),
        { w with files := course.leaves t (content r), fresh := w.fresh + 1 }) := by
  have hwrite := writeBelow_eq (t := w.files) hout (isPlainName_temporary w.now source w.fresh)
    (isPlainName_file w.now source w.fresh) (content r)
  rw [store, courseOf]
  dsimp only [path, temporaryPath]
  rw [hwrite]

theorem courseOf_place (h : (courseOf outDir source w).1.place? = some l) : l ≠ [] := by
  rw [courseOf] at h
  exact courseBelow_place h

/-- Storing that succeeds has put the record where it says. -/
theorem courseOf_eq_ok (source : Option Marketplace) (w : World α) (hout : outDir.text ≠ "")
    (hok : (courseOf outDir source w).1.result = .ok ()) :
    ∃ final, (courseOf outDir source w).1.place? = some final ∧ ∀ c,
      let t := (courseOf outDir source w).1.leaves (courseOf outDir source w).2 c
      let file := path outDir (baseName w.now source w.fresh)
      Keeps t outDir file c ∧ t.locate file = .ok final := by
  have hbelow := courseBelow_eq_ok (t := w.files) hout (isPlainName_temporary w.now source w.fresh)
    (isPlainName_file w.now source w.fresh)
  dsimp only [courseOf, path, temporaryPath] at hok ⊢
  exact hbelow hok

end ResultFile

namespace Service

variable {α : Type}

/-- An outcome once storing its record has gone this way. -/
def storedBy (j : Job) (file : Path) (o : Outcome) : Except StoreError Unit → Outcome
  | .ok () => { o with storedAt := some file }
  | .error e => { o with error := o.error <|> some (.artifact j.outDir (.store e)) }

theorem store_eq {j : Job} (hout : j.outDir.text ≠ "") (source : Option Marketplace) (o : Outcome)
    (w : World α) : store j source o w =
      let (course, t) := ResultFile.courseOf j.outDir source w
      (storedBy j (ResultFile.path j.outDir (ResultFile.baseName w.now source w.fresh)) o course.result,
        { w with files := course.leaves t (ResultFile.content o.record), fresh := w.fresh + 1 }) := by
  have hstore := ResultFile.store_eq hout source o.record w
  generalize ResultFile.courseOf j.outDir source w = x at hstore ⊢
  generalize ResultFile.path j.outDir (ResultFile.baseName w.now source w.fresh) = file at hstore ⊢
  obtain ⟨course, t⟩ := x
  unfold store
  rw [hstore]
  dsimp only
  cases course.result <;> rfl

end Service

end ListingCrawl
