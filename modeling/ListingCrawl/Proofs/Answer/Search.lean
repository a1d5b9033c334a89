import ListingCrawl.Answer.Issue
import ListingCrawl.Proofs.Json.Fields
import ListingCrawl.Proofs.Json.ObjectText

/-! The search for an object loses none and invents none. The candidates of a text are the places of all
its braces, so a scan finds an object if one starts anywhere; and an object in a fenced block is the
same object in the whole answer, since the reader does not look behind it. -/

namespace ListingCrawl.Answer

open Octets Text

/-! ### Candidates -/

/-- One octet: a brace is listed, and the scan goes on somehow. -/
theorem braces_cons (q : Json.Quoting) (depth : Nat) (b : UInt8) (s : Octets) :
    ∃ q' depth', (b = openBrace ∧
        ∃ mark, braces q depth (b :: s) = (mark, b :: s) :: braces q' depth' s) ∨
      (b ≠ openBrace ∧ braces q depth (b :: s) = braces q' depth' s) := by
  by_cases hb : b = openBrace
  · cases q with
    | outside => exact ⟨.outside, depth + 1, .inl ⟨hb, true, by simp only [braces, if_pos hb]⟩⟩
    | inside =>
      exact ⟨Json.Quoting.inside.next b, depth, .inl ⟨hb, false, by simp only [braces, if_pos hb]⟩⟩
    | escaped =>
      exact ⟨Json.Quoting.escaped.next b, depth, .inl ⟨hb, false, by simp only [braces, if_pos hb]⟩⟩
  · cases q with
    | inside => exact ⟨Json.Quoting.inside.next b, depth, .inr ⟨hb, by simp only [braces, if_neg hb]⟩⟩
    | escaped => exact ⟨Json.Quoting.escaped.next b, depth, .inr ⟨hb, by simp only [braces, if_neg hb]⟩⟩
    | outside =>
      simp only [braces, if_neg hb]
      split
      · exact ⟨.outside, depth - 1, .inr ⟨hb, rfl⟩⟩
      · split
        · exact ⟨.outside, depth, .inr ⟨hb, rfl⟩⟩
        · exact ⟨_, depth, .inr ⟨hb, rfl⟩⟩

/-- Every brace is listed, whatever the scanner takes for string literals. -/
theorem mem_braces {q : Json.Quoting} {depth : Nat} {s t : Octets} :
    (∃ mark, (mark, t) ∈ braces q depth s) ↔ ∃ r, t = openBrace :: r ∧ t <:+ s := by
  induction s generalizing q depth with
  | nil =>
    constructor
    · rintro ⟨mark, h⟩
      cases h
    · rintro ⟨r, rfl, h⟩
      exact absurd (List.suffix_nil.mp h) (List.cons_ne_nil _ _)
  | cons b s ih =>
    obtain ⟨q', depth', ⟨rfl, mark, h⟩ | ⟨hb, h⟩⟩ := braces_cons q depth b s
    · rw [h]
      constructor
      · rintro ⟨m, hm⟩
        obtain hm | hm := List.mem_cons.mp hm
        · cases hm
          exact ⟨s, rfl, List.suffix_rfl⟩
        · obtain ⟨r, hr, hs⟩ := ih.mp ⟨m, hm⟩
          exact ⟨r, hr, hs.trans (List.suffix_cons _ _)⟩
      · rintro ⟨r, hr, hs⟩
        obtain rfl | hs := List.suffix_cons_iff.mp hs
        · exact ⟨mark, List.mem_cons_self⟩
        · obtain ⟨m, hm⟩ := ih.mpr ⟨r, hr, hs⟩
          exact ⟨m, List.mem_cons_of_mem _ hm⟩
    · rw [h, ih]
      constructor
      · rintro ⟨r, hr, hs⟩
        exact ⟨r, hr, hs.trans (List.suffix_cons _ _)⟩
      · rintro ⟨r, rfl, hs⟩
        obtain hs | hs := List.suffix_cons_iff.mp hs
        · exact absurd (List.cons.inj hs).1.symm hb
        · exact ⟨r, rfl, hs⟩

theorem mem_candidates {s t : Octets} :
    t ∈ candidates s ↔ ∃ r, t = openBrace :: r ∧ t <:+ s := by
  rw [← mem_braces]
  simp only [candidates, List.map_append, List.mem_append, List.mem_map, List.mem_filter]
  constructor
  · rintro (⟨⟨mark, u⟩, ⟨h, -⟩, rfl⟩ | ⟨⟨mark, u⟩, ⟨h, -⟩, rfl⟩)
    · exact ⟨mark, h⟩
    · exact ⟨mark, h⟩
  · rintro ⟨mark, h⟩
    cases mark with
    | true => exact .inl ⟨(true, t), ⟨h, rfl⟩, rfl⟩
    | false => exact .inr ⟨(false, t), ⟨h, rfl⟩, rfl⟩

/-! ### Objects -/

/-- An object starts at some brace of the text. -/
def ObjectStarts (text : List Char) (fields : Fields) : Prop :=
  ∃ after, '{' :: after <:+ text ∧ objectAt? (ofChars ('{' :: after)) = some fields

theorem scanObjects_sound {accept : Fields → Bool} {text : List Char} {fields : Fields}
    (h : scanObjects accept text = some fields) : ObjectStarts text fields ∧ accept fields = true := by
  obtain ⟨s, hs, h⟩ := List.exists_of_findSome?_eq_some h
  rw [Option.filter_eq_some_iff] at h
  obtain ⟨r, rfl, hr⟩ := mem_candidates.mp hs
  obtain ⟨after, ha, hr⟩ := suffix_openBrace_iff.mp hr
  refine ⟨⟨after, ha, ?_⟩, h.2⟩
  rw [← hr]
  exact h.1

/-- A scan finds an accepted object if one starts anywhere. -/
theorem scanObjects_isSome {accept : Fields → Bool} {text : List Char} {fields : Fields}
    (h : ObjectStarts text fields) (ha : accept fields = true) :
    (scanObjects accept text).isSome = true := by
  obtain ⟨after, hs, hf⟩ := h
  have hm : ofChars ('{' :: after) ∈ candidates (ofChars text) := by
    have hr := ofChars_openBrace after
    rw [hr, mem_candidates]
    exact ⟨_, rfl, suffix_openBrace_iff.mpr ⟨after, hs, hr.symm⟩⟩
  rw [scanObjects, List.findSome?_isSome_iff]
  exact ⟨_, hm, by simp [hf, ha]⟩

/-! ### A part of a text -/

/-- An object after its opening brace. -/
theorem objectAt?_openBrace {r : Octets} {fields : Fields} :
    objectAt? (openBrace :: r) = some fields ↔ ∃ ms t,
      Json.readMembers (Json.readValue 126) r = .ok (ms, t) ∧ Json.ofMembers? ms = some (.object fields) := by
  have hread : objectAt? (openBrace :: r) = some fields ↔
      ∃ t, Json.readObject (Json.readValue 126) r = .ok (.object fields, t) := by
    rw [objectAt?, Json.readFirst?_openBrace]
    rcases Json.readObject (Json.readValue 126) r with _ | ⟨_ | _ | _ | _ | _ | _, _⟩ <;> simp
  simp only [hread, Json.readObject_eq_ok]
  exact exists_comm

/-- The object that starts at a brace does not depend on what follows it. -/
theorem objectAt?_append {r : Octets} {fields : Fields}
    (h : objectAt? (openBrace :: r) = some fields) (t : Octets) :
    objectAt? (openBrace :: (r ++ t)) = some fields := by
  obtain ⟨ms, rest, hread, hfields⟩ := objectAt?_openBrace.mp h
  obtain ⟨c, -, rfl, hc⟩ := Json.closed_readMembers (Json.local_readValue 126) _ _ _ hread
  exact objectAt?_openBrace.mpr ⟨ms, rest ++ t, by rw [List.append_assoc, hc], hfields⟩

/-- An object of a part is an object of the whole. -/
theorem ObjectStarts.of_part {text : List Char} {fields : Fields} (h : ObjectStarts text fields)
    (before after : List Char) : ObjectStarts (before ++ text ++ after) fields := by
  obtain ⟨r, ⟨front, hr⟩, hf⟩ := h
  refine ⟨r ++ after, ⟨before ++ front, by simp [← hr]⟩, ?_⟩
  rw [ofChars_openBrace] at hf ⊢
  rw [ofChars_append]
  exact objectAt?_append hf _

theorem cutAt?_eq {mark text before after : List Char} (h : cutAt? mark text = some (before, after)) :
    text = before ++ mark ++ after := by
  induction text generalizing before with
  | nil =>
    simp only [cutAt?] at h
    split at h
    · next hm =>
      cases h
      simp [List.isEmpty_iff.mp hm]
    · cases h
  | cons c text ih =>
    simp only [cutAt?] at h
    split at h
    · next hp =>
      cases h
      obtain ⟨rest, hr⟩ := List.isPrefixOf_iff_prefix.mp hp
      rw [← hr, List.nil_append, List.drop_left]
    · obtain ⟨⟨b, a⟩, hcut, hba⟩ := Option.map_eq_some_iff.mp h
      cases hba
      rw [ih hcut]
      rfl

/-- A fenced block is a part of the text. -/
theorem part_of_fenceBody? {text body : List Char} (h : fenceBody? text = some body) :
    ∃ before after, text = before ++ body ++ after := by
  simp only [fenceBody?, Option.bind_eq_bind, Option.bind_eq_some_iff] at h
  obtain ⟨⟨front, opened⟩, h₁, ⟨line, rest⟩, h₂, ⟨inner, tail⟩, h₃, h⟩ := h
  cases h
  refine ⟨front ++ fence ++ (line ++ ['\n']), fence ++ tail, ?_⟩
  have ho : opened = line ++ ['\n'] ++ rest := cutAt?_eq h₂
  have hr : rest = inner ++ fence ++ tail := cutAt?_eq h₃
  rw [cutAt?_eq h₁, ho, hr]
  simp

/-! ### The whole answer -/

theorem findObject?_eq (accept : Fields → Bool) (raw : String) : findObject? accept raw =
    ((fenceBody? (trimChars raw.toList)).bind (scanObjects accept)).or
      (scanObjects accept (trimChars raw.toList)) := by
  simp only [findObject?, Option.orElse_eq_orElse, Option.orElse_eq_or]

theorem findObject?_sound {accept : Fields → Bool} {raw : String} {fields : Fields}
    (h : findObject? accept raw = some fields) :
    ObjectStarts (trim raw).toList fields ∧ accept fields = true := by
  rw [toList_trim]
  rw [findObject?_eq] at h
  cases hb : (fenceBody? (trimChars raw.toList)).bind (scanObjects accept) with
  | none =>
    rw [hb, Option.none_or] at h
    exact scanObjects_sound h
  | some found =>
    rw [hb, Option.some_or] at h
    obtain rfl : found = fields := Option.some.inj h
    obtain ⟨body, hbody, hscan⟩ := Option.bind_eq_some_iff.mp hb
    obtain ⟨hstart, ha⟩ := scanObjects_sound hscan
    obtain ⟨before, after, ht⟩ := part_of_fenceBody? hbody
    rw [ht]
    exact ⟨hstart.of_part before after, ha⟩

theorem findObject?_isSome {accept : Fields → Bool} {raw : String} {fields : Fields}
    (h : ObjectStarts (trim raw).toList fields) (ha : accept fields = true) :
    (findObject? accept raw).isSome = true := by
  rw [toList_trim] at h
  rw [findObject?_eq]
  cases (fenceBody? (trimChars raw.toList)).bind (scanObjects accept) with
  | none =>
    rw [Option.none_or]
    exact scanObjects_isSome h ha
  | some found => rfl

/-- An object is found exactly if an accepted one starts somewhere. -/
theorem findObject?_isSome_iff {accept : Fields → Bool} {raw : String} :
    (findObject? accept raw).isSome = true ↔
      ∃ fields, ObjectStarts (trim raw).toList fields ∧ accept fields = true := by
  constructor
  · intro h
    obtain ⟨fields, hf⟩ := Option.isSome_iff_exists.mp h
    exact ⟨fields, findObject?_sound hf⟩
  · rintro ⟨fields, h, ha⟩
    exact findObject?_isSome h ha

/-- The object has a text as its status, and one that is not blank. -/
def HasStatus (fields : Fields) : Prop :=
  ∃ status, fields.get? "status" = some (.string status) ∧ isBlankText status = false

theorem hasStatus_iff (fields : Fields) : hasStatus fields = true ↔ HasStatus fields := by
  unfold hasStatus
  constructor
  · intro h
    split at h
    · next status hs =>
      exact ⟨status, Fields.text?_eq_some_iff.mp hs, by simpa using h⟩
    · cases h
  · rintro ⟨status, hs, hb⟩
    rw [Fields.text?_eq_some_iff.mpr hs]
    dsimp only
    rw [hb]
    rfl

theorem firstObject_eq_ok {raw : String} {fields : Fields} :
    firstObject raw = .ok fields ↔ findObject? (fun _ => true) raw = some fields := by
  unfold firstObject firstObject?
  cases findObject? (fun _ => true) raw <;> simp

theorem statusObject_eq_ok {raw : String} {fields : Fields} :
    statusObject raw = .ok fields ↔ findObject? hasStatus raw = some fields := by
  unfold statusObject statusObject?
  cases findObject? hasStatus raw <;> simp

/-- An object is taken from an answer exactly if one starts at a brace of the trimmed answer, one with a
status exactly if such a one does; and what is taken starts there. -/
theorem objects_found (raw : String) :
    ((∃ fields, firstObject raw = .ok fields) ↔ ∃ fields, ObjectStarts (trim raw).toList fields) ∧
    ((∃ fields, statusObject raw = .ok fields) ↔
      ∃ fields, ObjectStarts (trim raw).toList fields ∧ HasStatus fields) ∧
    (∀ fields, firstObject raw = .ok fields → ObjectStarts (trim raw).toList fields) ∧
    ∀ fields, statusObject raw = .ok fields →
      ObjectStarts (trim raw).toList fields ∧ HasStatus fields := by
  simp only [firstObject_eq_ok, statusObject_eq_ok, ← Option.isSome_iff_exists,
    findObject?_isSome_iff, hasStatus_iff, and_true, true_and]
  constructor
  · intro fields h
    exact (findObject?_sound h).1
  · intro fields h
    rw [← hasStatus_iff]
    exact findObject?_sound h

end ListingCrawl.Answer
