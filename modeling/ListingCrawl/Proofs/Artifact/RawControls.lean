import ListingCrawl.Artifact.FinalRecord
import ListingCrawl.Artifact.PageState
import ListingCrawl.Proofs.Json.Indifference
import ListingCrawl.Proofs.Json.ObjectText

/-! Files in which control characters stand raw in string literals. Such a file gives what it would give with
these characters escaped: as it is it starts with no other object, and with the raw characters escaped it
starts with the same one. -/

namespace ListingCrawl.Artifact

open Json

/-- A content starts with an object if the reader takes one from its front. -/
theorem readObject_eq_ok {content : Octets} {fields : Fields} : readObject content = .ok fields ↔
    ∃ rest, readValue maxLevels content = .ok (.object fields, rest) := by
  simp only [← readFirst?_object_iff, readObject]
  constructor
  · intro h
    split at h <;> cases h
    next rest hread => exact ⟨rest, hread⟩
  · rintro ⟨rest, hread⟩
    rw [hread]

/-- The object does not depend on how control characters are spelled. -/
theorem readObject_respelled {content content' : Octets} {fields : Fields}
    (h : Respells .outside content content') (hread : readObject content = .ok fields) :
    readObject content' = .ok fields := by
  obtain ⟨rest, hv⟩ := readObject_eq_ok.mp hread
  obtain ⟨rest', hv', -⟩ := indifferent_readValue maxLevels _ _ _ _ h hv
  exact readObject_eq_ok.mpr ⟨rest', hv'⟩

/-- If a content starts with an object once its control characters are escaped, it is read as this object:
as it is it starts with no other. -/
theorem readEscaped_eq_ok {content : Octets} {fields : Fields}
    (h : readObject (escapeControls content) = .ok fields) : readEscaped content = .ok fields := by
  unfold readEscaped
  split
  · next found hread =>
    have hsame := readObject_respelled (Unescapes.refl _ content).respells hread
    rw [← hsame]
    exact h
  · exact h

theorem readEscaped_unescaped {text raw : Octets} {fields : Fields}
    (hread : readObject text = .ok fields) (h : Unescapes .outside text raw) :
    readEscaped raw = .ok fields :=
  readEscaped_eq_ok (readObject_respelled h.respells hread)

theorem readObject_of_readDocument {text : Octets} {fields : Fields}
    (h : readDocument text = .ok (.object fields)) : readObject text = .ok fields := by
  rw [readDocument, bind_eq_ok] at h
  obtain ⟨⟨v, rest⟩, hv, h⟩ := h
  dsimp only at h
  split at h
  · cases h
    exact readObject_eq_ok.mpr ⟨rest, hv⟩
  · cases h

/-- Undoing escapes of control characters in a document that is one object changes nothing: with what is raw
escaped it is read as the same object, and it gives the same core fields and the same finished record. -/
theorem rawControls_alike {text raw : Octets} {fields : Fields}
    (htext : readDocument text = .ok (.object fields)) (hraw : Unescapes .outside text raw) :
    (readObject (escapeControls raw) = .ok fields ∧ readObject text = .ok fields) ∧
      CoreFields.ofPageState raw = CoreFields.ofPageState text ∧
      ∀ (files files' : FileTree) (dir : Path), files.read (finalRecordFile dir) = .ok text →
        files'.read (finalRecordFile dir) = .ok raw →
        finalRecord files dir = .ok ⟨fields⟩ ∧ finalRecord files' dir = .ok ⟨fields⟩ := by
  have hread : readObject text = .ok fields := readObject_of_readDocument htext
  have hescaped : readEscaped text = .ok fields := readEscaped_unescaped hread (.refl _ _)
  have hescaped' : readEscaped raw = .ok fields := readEscaped_unescaped hread hraw
  refine ⟨⟨readObject_respelled hraw.respells hread, hread⟩, ?_, fun files files' dir hfile hfile' => ?_⟩
  · simp only [CoreFields.ofPageState, hescaped, hescaped']
  · constructor
    · simp only [finalRecord, hfile, recordOf, hescaped]
    · simp only [finalRecord, hfile', recordOf, hescaped']

/-- A page state with three spellings of control characters: behind an escaped backslash, behind that one, and
in a key. -/
def stateWith (first second third : Octets) : Octets :=
  Octets.ofText "\x7b\"title\":\"A\\\\" ++ (first ++ (second ++
    (Octets.ofText "\",\"description\":\"d\\te\",\"currency\":\"EUR\",\"price\":1,\"k" ++
      (third ++ Octets.ofText "\":2\x7d"))))

def escapedState : Octets :=
  stateWith (Octets.ofText "\\n") (Octets.ofText "\\u000A") (Octets.ofText "\\r")

def rawState : Octets :=
  stateWith [0x0a] [0x0a] [0x0d]

def stateFields : Fields :=
  [("title", .string "A\\\n\n"), ("description", .string "d\te"), ("currency", .string "EUR"),
    ("price", .number "1"), ("k\r", .number "2")]

/-- A tree with one finished record at its root. -/
def recordTree (content : Octets) : FileTree :=
  ⟨[], [([Files.finalRecordName], .file content)]⟩

theorem unescapes_rawState : Unescapes .outside escapedState rawState := by
  exact .append _ (.undo (by decide) (.letter (by decide)) (.undo (by decide) (.digits rfl rfl)
    (.append _ (.undo (by decide) (.letter (by decide)) (.refl _ _)))))

theorem rawControls_alike_rawState :
    readObject (escapeControls rawState) = .ok stateFields ∧
      CoreFields.ofPageState rawState = CoreFields.ofPageState escapedState ∧
      finalRecord (recordTree rawState) ⟨"/"⟩ = .ok ⟨stateFields⟩ := by
  have htext : readDocument escapedState = .ok (.object stateFields) := by
    decide +kernel
  obtain ⟨⟨hread, -⟩, hcore, hrecord⟩ := rawControls_alike htext unescapes_rawState
  exact ⟨hread, hcore, (hrecord (recordTree escapedState) (recordTree rawState) ⟨"/"⟩ (by decide +kernel)
    (by decide +kernel)).2⟩

end ListingCrawl.Artifact
