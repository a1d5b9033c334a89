import ListingCrawl.Proofs.Json.Locality
import ListingCrawl.Proofs.Text.Octets
import ListingCrawl.Proofs.Text.Trim

/-! Texts that are one object, from the opening brace to the closing one. The reader of such a text stops
only at its end, so from a proper part of its front nothing is read at all: a text that is cut off
starts no value. -/

namespace ListingCrawl.Json

open Octets Text

/-- The text is one object, from its opening to its closing brace. -/
def IsObjectText (s : String) (fields : Fields) : Prop :=
  s.toList.head? = some '{' ∧ readFirst? (ofText s) = some (.ok (.object fields, []))

/-- What starts with a brace is read as an object or not at all. -/
theorem readValue_openBrace (levels : Nat) (r : Octets) :
    readValue (levels + 1) (openBrace :: r) = readObject (readValue levels) r := by
  rw [readValue_eq]
  rfl

theorem readFirst?_openBrace (r : Octets) :
    readFirst? (openBrace :: r) = some (readObject (readValue 126) r) := by
  have hv : readValue maxLevels (openBrace :: r) = _ := readValue_openBrace 126 r
  have hs : skipSpace (openBrace :: r) = openBrace :: r := rfl
  rw [readFirst?, hs]
  dsimp only
  rw [hv]
  cases readObject (readValue 126) r with
  | error e => rfl
  | ok m => rfl

/-! ### Whole texts -/

/-- White space of JSON is blank. -/
theorem isBlank_of_isSpace {b : UInt8} {c : Char} (hb : isSpace b = true) (h : b ∈ ofChar c) :
    isBlank c = true := by
  have hspace : ∀ b : UInt8, isSpace b = true →
      b.toNat = 0x20 ∨ b.toNat = 0x09 ∨ b.toNat = 0x0a ∨ b.toNat = 0x0d := by
    intro b hb
    simp only [isSpace, Bool.or_eq_true, beq_iff_eq] at hb
    obtain ((rfl | rfl) | rfl) | rfl := hb <;> decide
  have hn := hspace b hb
  have hc : c.toNat = b.toNat := toNat_of_mem_ofChar (by omega) h
  obtain hn | hn | hn | hn := hn <;> simp [isBlank, hc, hn]

/-- Where a text has no blank at its end, no white space ends its octets. -/
theorem eq_nil_of_skipSpace {cs : List Char} (hcs : NoBlankEnds cs) {t : Octets}
    (ht : t <:+ ofChars cs) (hspace : skipSpace t = []) : t = [] := by
  by_contra hne
  have hcs' : cs ≠ [] := by
    rintro rfl
    exact hne (List.suffix_nil.mp ht)
  have hsplit : ofChars cs = ofChars cs.dropLast ++ ofChar (cs.getLast hcs') := by
    rw [← ofChars_singleton, ← ofChars_append, List.dropLast_append_getLast]
  have hlast : t.getLast hne ∈ ofChar (cs.getLast hcs') := by
    rw [ht.getLast hne]
    simp only [hsplit]
    rw [List.getLast_append_of_ne_nil _ (ofChar_ne_nil _)]
    exact List.getLast_mem _
  have hsp : isSpace (t.getLast hne) = true :=
    List.dropWhile_eq_nil_iff.mp hspace _ (List.getLast_mem hne)
  have hb := hcs.2 _ (List.getLast?_eq_some_getLast hcs')
  rw [isBlank_of_isSpace hsp hlast] at hb
  cases hb

theorem skipSpace_ofChars {cs : List Char} (hcs : NoBlankEnds cs) :
    skipSpace (ofChars cs) = ofChars cs := by
  cases cs with
  | nil => rfl
  | cons c cs =>
    obtain ⟨b, r, hc⟩ := List.exists_cons_of_ne_nil (ofChar_ne_nil c)
    have hb : ¬ isSpace b = true := by
      intro hspace
      have hblank := isBlank_of_isSpace hspace (hc ▸ List.mem_cons_self)
      rw [hcs.1 c rfl] at hblank
      cases hblank
    rw [ofChars_cons, hc, List.cons_append, skipSpace, List.dropWhile_cons_of_neg hb]

/-- Only an opening brace starts an object. -/
theorem eq_openBrace_of_readRest {levels : Nat} {b : UInt8} {r t : Octets} {fields : Fields}
    (h : readRest levels b r = .ok (.object fields, t)) : b = openBrace := by
  by_contra hb
  simp only [readRest, if_neg hb] at h
  repeat' split at h
  all_goals
    first
    | cases h
    | rw [bind_eq_ok] at h
      obtain ⟨x, -, h⟩ := h
      cases h

theorem skipSpace_cons_of_skipSpace {s t : Octets} {b : UInt8} (h : skipSpace s = b :: t) :
    skipSpace (b :: t) = b :: t := by
  rw [skipSpace, List.dropWhile_cons_of_neg (by simp [isSpace_of_skipSpace h])]

/-- An object begins with the first brace that is not passed over as white space. -/
theorem exists_openBrace_of_readValue {levels : Nat} {s r : Octets} {fields : Fields}
    (h : readValue levels s = .ok (.object fields, r)) :
    ∃ t, skipSpace s = openBrace :: t ∧ readValue levels (openBrace :: t) = .ok (.object fields, r) := by
  rw [readValue_eq] at h
  cases hs : skipSpace s with
  | nil => simp [hs] at h
  | cons b t =>
    rw [hs] at h
    obtain rfl := eq_openBrace_of_readRest h
    refine ⟨t, rfl, ?_⟩
    rw [readValue_eq, skipSpace_cons_of_skipSpace hs]
    exact h

/-- Behind an object there may be anything. -/
theorem readFirst?_object_iff {s r : Octets} {fields : Fields} :
    readFirst? s = some (.ok (.object fields, r)) ↔
      readValue maxLevels s = .ok (.object fields, r) := by
  constructor
  · intro h
    unfold readFirst? at h
    split at h
    · cases h
    · next b t hs =>
      obtain ⟨⟨v, u⟩, hv, h⟩ := bind_eq_ok.mp (Option.some.inj h)
      dsimp only at h
      split at h
      · cases h
        rw [readValue_eq, skipSpace_cons_of_skipSpace hs] at hv
        rw [readValue_eq, hs]
        exact hv
      · cases h
  · intro h
    obtain ⟨t, hs, hread⟩ := exists_openBrace_of_readValue h
    rw [readFirst?, hs]
    dsimp only
    rw [hread]
    rfl

/-- A document that holds one object, without blanks around it, is an object text. -/
theorem isObjectText_of_readDocument {s : String} {fields : Fields} (hs : NoBlankEnds s.toList)
    (h : readDocument (ofText s) = .ok (.object fields)) : IsObjectText s fields := by
  rw [readDocument, bind_eq_ok] at h
  obtain ⟨⟨v, t⟩, hv, h⟩ := h
  dsimp only at h
  split at h
  · next hspace =>
    cases h
    obtain ⟨r, hr, -⟩ := exists_openBrace_of_readValue hv
    rw [ofText, skipSpace_ofChars hs] at hr
    obtain ⟨after, ⟨before, hbefore⟩, hafter⟩ : ∃ after, '{' :: after <:+ s.toList ∧
        openBrace :: r = ofChars ('{' :: after) := suffix_openBrace_iff.mp (hr ▸ List.suffix_refl _)
    have hnil : before = [] := by
      rw [← hbefore, ofChars_append, ← hafter, List.append_left_eq_self, ofChars_eq_nil_iff] at hr
      exact hr
    obtain ⟨c, hc, -⟩ := local_readValue maxLevels _ _ _ hv
    have ht : t = [] := eq_nil_of_skipSpace hs ⟨c, hc.symm⟩ (List.isEmpty_iff.mp hspace)
    refine ⟨by rw [← hbefore, hnil]; rfl, ?_⟩
    rw [readFirst?_object_iff, hv, ht]
  · cases h

/-! ### The closing brace -/

theorem skipSpace_suffix {s r : Octets} (h : skipSpace s = r) : r <:+ s :=
  h ▸ List.dropWhile_suffix isSpace

/-- A container is left behind the octet that closes it. -/
theorem suffix_of_readMore {α : Type} {next : Reader α} (hnext : Local next) {close : UInt8}
    {atEnd other : ReadError} {fuel s r : Octets} {vs : List α}
    (h : readMore next close atEnd other fuel s = .ok (vs, r)) : close :: r <:+ s := by
  induction fuel generalizing s vs with
  | nil => cases h
  | cons _ fuel ih =>
    rw [readMore] at h
    split at h
    · cases h
    · next b t hs =>
      refine List.IsSuffix.trans ?_ (skipSpace_suffix hs)
      split at h
      · next hb =>
        cases h
        exact hb ▸ List.suffix_rfl
      · split at h
        · simp only [bind_eq_ok] at h
          obtain ⟨⟨v, u⟩, hv, ⟨vs, r⟩, hvs, h⟩ := h
          cases h
          obtain ⟨c, rfl, -⟩ := hnext _ _ _ hv
          exact (ih hvs).trans ((List.suffix_append c u).trans (List.suffix_cons _ _))
        · cases h

theorem suffix_of_readMembers {value : Reader Json} (hvalue : Local value) {s r : Octets}
    {ms : List (String × Json)} (h : readMembers value s = .ok (ms, r)) : closeBrace :: r <:+ s := by
  unfold readMembers at h
  split at h
  · cases h
  · next b t hs =>
    refine List.IsSuffix.trans ?_ (skipSpace_suffix hs)
    split at h
    · next hb =>
      cases h
      exact hb ▸ List.suffix_rfl
    · split at h
      · simp only [bind_eq_ok] at h
        obtain ⟨⟨m, u⟩, hm, ⟨ms, r⟩, hms, h⟩ := h
        cases h
        obtain ⟨c, rfl, -⟩ := local_readMember hvalue _ _ _ hm
        rw [readMoreMembers_eq] at hms
        exact (suffix_of_readMore (local_readNextMember hvalue) hms).trans
          ((List.suffix_append c u).trans (List.suffix_cons _ _))
      · cases h

/-- An object text is an opening brace and members that end where it ends. -/
theorem isObjectText_iff {s : String} {fields : Fields} : IsObjectText s fields ↔
    ∃ cs ms, s.toList = '{' :: cs ∧ readMembers (readValue 126) (ofChars cs) = .ok (ms, []) ∧
      ofMembers? ms = some (.object fields) := by
  constructor
  · rintro ⟨hfirst, hread⟩
    obtain ⟨cs, hcs⟩ := List.head?_eq_some_iff.mp hfirst
    rw [ofText, hcs, ofChars_openBrace, readFirst?_openBrace] at hread
    obtain ⟨ms, hms, hobject⟩ := readObject_eq_ok.mp (Option.some.inj hread)
    exact ⟨cs, ms, hcs, hms, hobject⟩
  · rintro ⟨cs, ms, hcs, hms, hobject⟩
    refine ⟨by rw [hcs]; rfl, ?_⟩
    rw [ofText, hcs, ofChars_openBrace, readFirst?_openBrace, readObject_eq_ok.mpr ⟨ms, hms, hobject⟩]

/-- An object text ends with a closing brace. -/
theorem IsObjectText.eq_enclosed {s : String} {fields : Fields} (h : IsObjectText s fields) :
    ∃ cs, s.toList = '{' :: (cs ++ ['}']) := by
  obtain ⟨cs, ms, hcs, hms, -⟩ := isObjectText_iff.mp h
  have hsuffix := suffix_of_readMembers (local_readValue 126) hms
  obtain ⟨after, ⟨front, hfront⟩, hafter⟩ := suffix_closeBrace_iff.mp hsuffix
  rw [ofChars_closeBrace] at hafter
  obtain rfl : after = [] := ofChars_eq_nil_iff.mp (List.cons.inj hafter).2.symm
  exact ⟨front, by rw [hcs, hfront]⟩

/-- Around an object text only what stands outside of it is trimmed. -/
theorem IsObjectText.noBlankEnds {s : String} {fields : Fields} (h : IsObjectText s fields) :
    NoBlankEnds s.toList := by
  obtain ⟨cs, hcs⟩ := h.eq_enclosed
  rw [hcs]
  constructor
  · intro c hc
    obtain rfl := Option.mem_some_iff.mp hc
    decide
  · intro c hc
    rw [← List.cons_append, List.getLast?_concat, Option.mem_some_iff] at hc
    rw [← hc]
    decide

/-! ### Cutting off -/

/-- No value is read from the front of an object text. -/
theorem readFirst?_cutOff {p q : List Char} {v : Json}
    (h : readFirst? (ofChars ('{' :: (p ++ q))) = some (.ok (v, []))) (hq : q ≠ []) :
    ∃ e, readFirst? (ofChars ('{' :: p)) = some (.error e) := by
  rw [ofChars_openBrace, readFirst?_openBrace] at h ⊢
  cases hp : readObject (readValue 126) (ofChars p) with
  | error e => exact ⟨e, rfl⟩
  | ok x =>
    obtain ⟨w, rest⟩ := x
    obtain ⟨c, -, hc, hread⟩ := closed_readObject (local_readValue 126) _ _ _ hp
    -- the whole text would be left with all that was cut off
    have hwhole : ofChars (p ++ q) = c ++ (rest ++ ofChars q) := by
      rw [ofChars_append, hc, List.append_assoc]
    rw [hwhole, hread] at h
    simp [hq] at h

theorem IsObjectText.eq_cons {s : String} {fields : Fields} (h : IsObjectText s fields) :
    ∃ cs, s.toList = '{' :: cs :=
  List.head?_eq_some_iff.mp h.1

/-- What is left of a cut object text when it is trimmed is cut off too. -/
theorem IsObjectText.cutOff {p q : String} {fields : Fields} (h : IsObjectText (p ++ q) fields)
    (hp : p ≠ "") (hq : q ≠ "") : ∃ kept e, trimChars p.toList = '{' :: kept ∧
      readFirst? (ofChars ('{' :: kept)) = some (.error e) := by
  obtain ⟨cs, hcs⟩ := h.eq_cons
  rw [String.toList_append] at hcs
  obtain hnil | ⟨front, hfront, rfl⟩ := List.append_eq_cons_iff.mp hcs
  · exact absurd (String.toList_eq_nil_iff.mp hnil.1) hp
  · obtain ⟨kept, hkept, blanks, rfl⟩ := trimChars_cons (c := '{') (by decide) front
    have hread := h.2
    rw [ofText, String.toList_append, hcs, List.append_assoc] at hread
    have hne : blanks ++ q.toList ≠ [] := by
      rw [Ne, List.append_eq_nil_iff, String.toList_eq_nil_iff]
      exact fun hboth => hq hboth.2
    obtain ⟨e, he⟩ := readFirst?_cutOff hread hne
    exact ⟨kept, e, by rw [hfront, hkept], he⟩

end ListingCrawl.Json
