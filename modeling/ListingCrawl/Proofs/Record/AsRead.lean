import ListingCrawl.Proofs.Answer.Search
import ListingCrawl.Proofs.Json.AsRead
import ListingCrawl.Proofs.Record.Keeps

/-! Records whose values are as the reader gives them. The object that is taken from an answer was read,
and bringing a record into canonical form puts only texts and lists of texts into it. The deepest of
these, the images of a variation, stand three levels below the entries of the record. -/

namespace ListingCrawl

open Json (AsRead EntriesAsRead)

variable {levels : Nat} {fs : Fields}

/-! ### Rules -/

theorem Json.EntriesAsRead.edits {rules : List (String × Rule)} (h : EntriesAsRead levels fs)
    (hrules : ∀ r ∈ rules, r.2.Keeps (AsRead levels)) : EntriesAsRead levels (fs.edits rules) :=
  ⟨Fields.nodup_keys_edits h.nodup, Fields.forall_mem_edits h.values hrules⟩

/-- A list of texts. -/
theorem Images.asRead_toJson (levels : Nat) (images : List String) :
    AsRead (levels + 1) (toJson images) := by
  refine .array fun v hv => ?_
  obtain ⟨s, -, rfl⟩ := List.mem_map.mp hv
  exact .string levels s

/-! ### The canonical form -/

/-- Variations are objects two levels below their list. -/
theorem Variation.asRead_normalize {v : Json} (h : AsRead (levels + 2) v) :
    AsRead (levels + 2) (normalize v) := by
  cases v with
  | object fields =>
    have hfields := Json.asRead_object_iff.mp h
    refine Json.asRead_object_iff.mpr ⟨nodup_keys_normalizeFields hfields.nodup, ?_⟩
    exact forall_mem_normalizeFields hfields.values (fun s => .string _ s) (fun s => .string _ s)
      (Images.asRead_toJson levels)
  | _ => exact h

namespace Record

/-- The canonical form of a record that was read is as if it had been read. -/
theorem asRead_normalize (levels : Nat) {r : Record} (h : EntriesAsRead (levels + 3) r.fields)
    (now url : String) :
    EntriesAsRead (levels + 3) (r.normalize now url).fields := by
  have htext : ∀ s, AsRead (levels + 3) (.string s) := .string (levels + 3)
  have hvariations : Rule.variations.Keeps (AsRead (levels + 3)) := by
    refine Rule.keeps_variations (.array (by simp)) fun items hitems => .array fun w hw => ?_
    obtain ⟨item, hmem, rfl⟩ := List.mem_map.mp hw
    exact Variation.asRead_normalize (Json.asRead_array_iff.mp hitems item hmem)
  rw [normalize_fields]
  refine h.edits ?_
  simp only [rules, List.forall_mem_cons]
  exact ⟨Rule.keeps_fill htext url, Rule.keeps_fill htext now, Rule.keeps_currency htext,
    Rule.keeps_price fun _ _ => htext _, Rule.keeps_images (Images.asRead_toJson (levels + 2)),
    hvariations, by simp⟩

theorem asRead_failed (levels : Nat) (now url message : String) :
    EntriesAsRead levels (failed now url message).fields := by
  simp only [failed, insertText, insert, empty]
  exact ((((EntriesAsRead.nil levels).insert (.string levels url)).insert (.string levels _)).insert
    (.string levels now)).insert (.string levels message)

end Record

/-! ### Answers -/

/-- An object in an answer is as the reader gives it, and plain. -/
theorem Answer.ObjectStarts.asRead {text : List Char} {fields : Fields}
    (h : ObjectStarts text fields) : EntriesAsRead 126 fields ∧ Json.Plain (.object fields) := by
  obtain ⟨after, -, hobject⟩ := h
  rw [Octets.ofChars_openBrace] at hobject
  obtain ⟨ms, rest, hread, hfields⟩ := objectAt?_openBrace.mp hobject
  have hvalue := Json.gives_readObject (Json.gives_readValue 126) _ _ _
    (Json.readObject_eq_ok.mpr ⟨ms, hread, hfields⟩)
  exact ⟨Json.asRead_object_iff.mp hvalue.1, hvalue.2⟩

end ListingCrawl
