import ListingCrawl.Proofs.Json.AsRead
import ListingCrawl.Proofs.Json.ObjectText
import ListingCrawl.Proofs.Json.Strings

/-! What is written is read again as it was. The reader passes over white space in the places where the
pretty form puts it, so the two written forms differ only in the white space that stands before an
element and before the end of a container; one account of the containers serves both. -/

namespace ListingCrawl.Json

open Octets

variable {α : Type} {levels : Nat}

/-- Octets that are read as this value wherever a value can stand. -/
def Spells (levels : Nat) (text : Octets) (v : Json) : Prop :=
  ∀ u, endsValue u = true → readValue levels (text ++ u) = .ok (v, u)

/-- White space of JSON. -/
def IsSpaces (sp : Octets) : Prop :=
  ∀ b ∈ sp, isSpace b = true

/-! ### White space -/

theorem skipSpace_append {sp : Octets} (hsp : IsSpaces sp) (s : Octets) :
    skipSpace (sp ++ s) = skipSpace s :=
  List.dropWhile_append_of_pos hsp

theorem skipSpace_cons {b : UInt8} (hb : isSpace b = false) (s : Octets) :
    skipSpace (b :: s) = b :: s :=
  List.dropWhile_cons_of_neg (by simp [hb])

theorem endsValue_append {sp u : Octets} (hsp : IsSpaces sp) (hu : endsValue u = true) :
    endsValue (sp ++ u) = true := by
  cases sp with
  | nil => exact hu
  | cons b sp =>
    have hb : isSpace b = true := hsp b List.mem_cons_self
    simp [endsValue, hb]

theorem Spells.space {text sp : Octets} {v : Json} (h : Spells levels text v) (hsp : IsSpaces sp) :
    Spells levels (sp ++ text) v := by
  intro u hu
  rw [readValue_eq, List.append_assoc, skipSpace_append hsp, ← readValue_eq]
  exact h u hu

theorem isSpaces_blank : IsSpaces (ofChar ' ') := by
  rw [ofChar_of_lt (by decide)]
  intro b hb
  rw [List.mem_singleton.mp hb]
  decide

theorem isSpaces_newLine (level : Nat) : IsSpaces (ofChars (newLine level)) := by
  have hline : ofChar '\n' = [0x0a] := ofChar_of_lt (by decide)
  intro b hb
  rw [newLine, ofChars_cons, hline, List.singleton_append, List.mem_cons, ofChars,
    List.mem_flatMap] at hb
  obtain rfl | ⟨c, hc, hb⟩ := hb
  · decide
  · rw [List.eq_of_mem_replicate hc] at hb
    exact isSpaces_blank b hb

/-! ### Values without parts -/

theorem spells_null : Spells levels (ofChars ['n', 'u', 'l', 'l']) .null := by
  intro u _
  rw [readValue_eq]
  rfl

theorem spells_bool (b : Bool) : Spells levels
    (ofChars (if b then ['t', 'r', 'u', 'e'] else ['f', 'a', 'l', 's', 'e'])) (.bool b) := by
  intro u _
  rw [readValue_eq]
  cases b <;> rfl

/-- A sign or a digit is no other octet that the reader knows. -/
theorem ne_of_startsNumber {b c : UInt8} (hb : b = 0x2d ∨ isDigit b = true) (hc : c ≠ 0x2d)
    (hdigit : isDigit c = false) : b ≠ c := by
  obtain rfl | hb := hb
  · exact hc.symm
  · exact ne_of_isDigit hb hdigit

theorem spells_number {token : String} (h : IsToken token) :
    Spells levels (ofText token) (.number token) := by
  obtain ⟨n, rfl⟩ := h
  intro u hu
  have hread := readNumber_octets n (endsNumber_of_endsValue hu)
  obtain ⟨b, r, hoctets, hb⟩ := n.head_octets
  have hne : ∀ c : UInt8, c ≠ 0x2d → isDigit c = false → b ≠ c :=
    fun c hc hdigit => ne_of_startsNumber hb hc hdigit
  have hspace : isSpace b = false := by
    simp only [isSpace, Bool.or_eq_false_iff, beq_eq_false_iff_ne]
    exact ⟨⟨⟨hne _ (by decide) (by decide), hne _ (by decide) (by decide)⟩,
      hne _ (by decide) (by decide)⟩, hne _ (by decide) (by decide)⟩
  rw [hoctets, List.cons_append] at hread
  rw [n.ofText_token, hoctets, List.cons_append, readValue_eq, skipSpace_cons hspace]
  simp only [readRest, if_neg (hne 0x6e (by decide) (by decide)),
    if_neg (hne 0x74 (by decide) (by decide)), if_neg (hne 0x66 (by decide) (by decide)), if_pos hb,
    hread, bind, Except.bind]

theorem spells_string (text : String) : Spells levels (ofChars (stringChars text)) (.string text) := by
  intro u _
  have hread := readString_escaped text u
  rw [readValue_eq, ofChars_stringChars, List.append_assoc, List.singleton_append]
  rw [List.cons_append, skipSpace_cons (by decide)]
  have hrest : ∀ r, readRest levels quote r = (readString r).map fun x => (.string x.1, x.2) :=
    fun r => rfl
  dsimp only
  rw [hrest, hread]
  rfl

/-! ### Elements behind commas -/

/-- The octets of further elements, each behind a comma. -/
def moreText (text : α → Octets) (xs : List α) : Octets :=
  xs.flatMap fun x => comma :: text x

/-- An octet that closes a container. -/
structure IsEnd (close : UInt8) : Prop where
  isSpace : isSpace close = false
  ne_comma : close ≠ comma
  endsValue : ∀ u, endsValue (close :: u) = true

theorem isEnd_closeBracket : IsEnd closeBracket :=
  ⟨by decide, by decide, fun _ => rfl⟩

theorem isEnd_closeBrace : IsEnd closeBrace :=
  ⟨by decide, by decide, fun _ => rfl⟩

theorem endsValue_moreText {close : UInt8} (hclose : IsEnd close) {sp : Octets} (hsp : IsSpaces sp)
    (text : α → Octets) (xs : List α) (u : Octets) :
    endsValue (moreText text xs ++ (sp ++ close :: u)) = true := by
  cases xs with
  | nil =>
    rw [moreText, List.flatMap_nil, List.nil_append]
    exact endsValue_append hsp (hclose.endsValue u)
  | cons x xs => rfl

/-- The loop over further elements reads them all, up to and with the end of the container. -/
theorem readMore_written {next : Reader α} {text : α → Octets} {close : UInt8} (hclose : IsEnd close)
    {sp : Octets} (hsp : IsSpaces sp) (atEnd other : ReadError) {xs : List α}
    (hnext : ∀ x ∈ xs, ∀ u, endsValue u = true → next (text x ++ u) = .ok (x, u)) (u fuel : Octets)
    (hfuel : xs.length < fuel.length) :
    readMore next close atEnd other fuel (moreText text xs ++ (sp ++ close :: u)) = .ok (xs, u) := by
  induction xs generalizing fuel with
  | nil =>
    cases fuel with
    | nil => simp at hfuel
    | cons _ fuel =>
      have hskip : skipSpace (sp ++ close :: u) = close :: u := by
        rw [skipSpace_append hsp, skipSpace_cons hclose.isSpace]
      simp only [moreText, List.flatMap_nil, List.nil_append, readMore, hskip, if_true]
  | cons x xs ih =>
    obtain ⟨hx, hxs⟩ := List.forall_mem_cons.mp hnext
    cases fuel with
    | nil => simp at hfuel
    | cons _ fuel =>
      simp only [List.length_cons] at hfuel
      have hread := hx _ (endsValue_moreText hclose hsp text xs u)
      have hrest := ih hxs fuel (by omega)
      have htext : moreText text (x :: xs) ++ (sp ++ close :: u) =
          comma :: (text x ++ (moreText text xs ++ (sp ++ close :: u))) := by
        simp [moreText]
      have hskip := skipSpace_cons (b := comma) (by decide)
      simp only [htext, readMore, hskip, if_neg hclose.ne_comma.symm, if_true, hread, hrest, bind,
        Except.bind]

/-- The octets of the elements and of the end are fuel enough for the loop. -/
theorem length_lt_moreText (text : α → Octets) (xs : List α) (sp u : Octets) (close : UInt8) :
    xs.length < (moreText text xs ++ (sp ++ close :: u)).length := by
  have hle : xs.length ≤ (moreText text xs).length := by
    induction xs with
    | nil => simp
    | cons x xs ih =>
      rw [moreText] at ih ⊢
      simp only [List.flatMap_cons, List.cons_append, List.length_cons, List.length_append]
      omega
  simp only [List.length_append, List.length_cons]
  omega

/-- A value starts with an octet that is no white space and closes no array. -/
theorem exists_first_of_readValue {s t : Octets} {v : Json} (h : readValue levels s = .ok (v, t)) :
    ∃ b r, skipSpace s = b :: r ∧ b ≠ closeBracket ∧ readValue levels (b :: r) = .ok (v, t) := by
  have hread := h
  rw [readValue_eq] at hread
  split at hread
  · cases hread
  · next b r hs =>
    refine ⟨b, r, hs, ?_, ?_⟩
    · rintro rfl
      cases hread
    · rw [readValue_eq, skipSpace_cons (isSpace_of_skipSpace hs)]
      exact hread

/-! ### Containers -/

theorem spells_emptyArray : Spells (levels + 1) (ofChars ['[', ']']) (.array []) := by
  intro u _
  rw [readValue_eq]
  rfl

/-- An array is read if its items are. -/
theorem spells_array (text : Json → Octets) {v : Json} {vs : List Json}
    (hitems : ∀ w ∈ v :: vs, Spells levels (text w) w) {sp : Octets} (hsp : IsSpaces sp) :
    Spells (levels + 1) (openBracket :: (text v ++ (moreText text vs ++ (sp ++ [closeBracket]))))
      (.array (v :: vs)) := by
  intro u _
  obtain ⟨hv, hvs⟩ := List.forall_mem_cons.mp hitems
  have hnext : ∀ w ∈ vs, ∀ u, endsValue u = true →
      readNextItem (readValue levels) (text w ++ u) = .ok (w, u) := by
    intro w hw u hu
    obtain ⟨b, r, hskip, hb, hread⟩ := exists_first_of_readValue (hvs w hw u hu)
    simp only [readNextItem, hskip, if_neg hb, hread]
  have hmore := endsValue_moreText isEnd_closeBracket hsp text vs u
  have hloop := readMore_written isEnd_closeBracket hsp .endInArray .expectedArrayEnd hnext u _
    (length_lt_moreText text vs sp u closeBracket)
  obtain ⟨b, r, hskip, hb, hread⟩ := exists_first_of_readValue (hv _ hmore)
  have hitems : readItems (readValue levels)
      (text v ++ (moreText text vs ++ (sp ++ closeBracket :: u))) = .ok (v :: vs, u) := by
    simp only [readItems, hskip, if_neg hb, hread, readMoreItems_eq, hloop, bind, Except.bind]
  have hrest : ∀ r, readRest (levels + 1) openBracket r =
      (readItems (readValue levels) r).map fun x => (.array x.1, x.2) := fun r => rfl
  rw [readValue_eq, List.cons_append, skipSpace_cons (by decide)]
  simp only [List.append_assoc, List.singleton_append, hrest, hitems, Except.map]

/-- A member after its opening quote. -/
def memberText (text : Json → Octets) (m : String × Json) : Octets :=
  ofChars (m.1.toList.flatMap escapedChar) ++ quote :: colon :: text m.2

theorem readMember_written {text : Json → Octets} {m : String × Json}
    (hvalue : Spells levels (text m.2) m.2) {u : Octets} (hu : endsValue u = true) :
    readMember (readValue levels) (memberText text m ++ u) = .ok (m, u) := by
  have hkey := readString_escaped m.1 (colon :: (text m.2 ++ u))
  simp only [readMember, memberText, List.append_assoc, List.cons_append, hkey,
    skipSpace_cons (b := colon) (by decide), if_true, hvalue u hu, bind, Except.bind]

/-- The members of an object are read if their values are. -/
theorem readMembers_written (text : Json → Octets) {m : String × Json} {ms : Fields}
    (hvalues : ∀ e ∈ m :: ms, Spells levels (text e.2) e.2) {before after : Octets}
    (hbefore : IsSpaces before) (hafter : IsSpaces after) (u : Octets) :
    readMembers (readValue levels) (before ++ quote :: (memberText text m ++
      (moreText (fun m => before ++ quote :: memberText text m) ms ++ (after ++ closeBrace :: u)))) =
      .ok (m :: ms, u) := by
  obtain ⟨hm, hms⟩ := List.forall_mem_cons.mp hvalues
  have hquote : ∀ s, skipSpace (before ++ quote :: s) = quote :: s := by
    intro s
    rw [skipSpace_append hbefore, skipSpace_cons (by decide)]
  have hnext : ∀ e ∈ ms, ∀ u, endsValue u = true →
      readNextMember (readValue levels) ((before ++ quote :: memberText text e) ++ u) =
        .ok (e, u) := by
    intro e he u hu
    simp only [readNextMember, List.append_assoc, List.cons_append, hquote, if_true,
      readMember_written (hms e he) hu]
  have hmore := endsValue_moreText isEnd_closeBrace hafter
    (fun m => before ++ quote :: memberText text m) ms u
  have hloop := readMore_written isEnd_closeBrace hafter .endInObject .expectedObjectEnd hnext u _
    (length_lt_moreText (fun m => before ++ quote :: memberText text m) ms after u closeBrace)
  have hne : quote ≠ closeBrace := by decide
  simp only [readMembers, hquote, if_neg hne, if_true, readMember_written hm hmore,
    readMoreMembers_eq, hloop, bind, Except.bind]

/-- An object without a repeated key is read if its members are, and it does not hold a number. -/
theorem spells_object {fields : Fields} (hnodup : fields.keys.Nodup)
    (hholds : fields.holdsNumber = false) {cs : List Char}
    (h : ∀ u, readMembers (readValue levels) (ofChars cs ++ u) = .ok (fields, u)) :
    Spells (levels + 1) (ofChars ('\x7b' :: cs)) (.object fields) := by
  intro u _
  have hobject : ofMembers? fields = some (.object fields) :=
    ofMembers?_eq_object_iff.mpr ⟨hholds, Fields.ofEntries_of_nodup hnodup⟩
  rw [ofChars_openBrace, List.cons_append, readValue_openBrace]
  exact readObject_eq_ok.mpr ⟨fields, h u, hobject⟩

/-! ### Written values -/

/-- A list that is written with commas between its elements. -/
theorem ofChars_joined (join : List α → List Char) (one : α → List Char)
    (hone : ∀ x, join [x] = one x)
    (hmore : ∀ x y zs, join (x :: y :: zs) = one x ++ ',' :: join (y :: zs)) (x : α) (xs : List α) :
    ofChars (join (x :: xs)) = ofChars (one x) ++ moreText (fun x => ofChars (one x)) xs := by
  induction xs generalizing x with
  | nil => simp [hone, moreText]
  | cons y zs ih =>
    rw [hmore, ofChars_append, ofChars_cons_ascii (by decide), ih]
    rfl

/-- A member is written as its key, a colon and its value. -/
theorem ofChars_member (m : String × Json) (value : Json → List Char) :
    ofChars (stringChars m.1 ++ ':' :: value m.2) =
      quote :: memberText (fun v => ofChars (value v)) m := by
  rw [ofChars_append, ofChars_stringChars, ofChars_cons_ascii (by decide), memberText]
  simp only [List.cons_append, List.append_assoc, List.nil_append]
  rfl

theorem ofChars_enclosed {first last : Char} (hfirst : first.toNat < 0x80) (hlast : last.toNat < 0x80)
    (cs sp : List Char) : ofChars (first :: cs ++ sp ++ [last]) =
      UInt8.ofNat first.toNat :: (ofChars cs ++ (ofChars sp ++ [UInt8.ofNat last.toNat])) := by
  rw [List.append_assoc, List.cons_append, ofChars_cons_ascii hfirst, ofChars_append, ofChars_append,
    ofChars_singleton, ofChar_of_lt hlast]

/-- The pretty form of an object, after its opening brace, gives its members. -/
theorem readMembers_pretty {fields : Fields} {level : Nat}
    (h : ∀ e ∈ fields, Spells levels (ofChars (prettyChars (level + 1) e.2)) e.2) :
    ∃ cs, prettyChars level (.object fields) = '\x7b' :: cs ∧
      ∀ u, readMembers (readValue levels) (ofChars cs ++ u) = .ok (fields, u) := by
  cases fields with
  | nil =>
    refine ⟨['\x7d'], by rw [prettyChars], fun u => ?_⟩
    rfl
  | cons m ms =>
    refine ⟨_, by rw [prettyChars, List.append_assoc, List.cons_append], fun u => ?_⟩
    have hread := readMembers_written (fun v => ofChars (' ' :: prettyChars (level + 1) v))
      (fun e he => by
        rw [ofChars_cons]
        exact (h e he).space isSpaces_blank)
      (isSpaces_newLine (level + 1)) (isSpaces_newLine level) u
    have htext := ofChars_joined (prettyMembers (level + 1))
      (fun m => newLine (level + 1) ++ (stringChars m.1 ++ ':' :: ' ' ::
        prettyChars (level + 1) m.2))
      (fun m => by rw [prettyMembers, List.append_assoc])
      (fun m n ms => by
        rw [prettyMembers]
        simp only [List.append_assoc, List.cons_append]) m ms
    have hmember := fun m => ofChars_member m fun v => ' ' :: prettyChars (level + 1) v
    simp only [ofChars_append (newLine (level + 1)), hmember] at htext
    rw [ofChars_append, htext, ofChars_append, ofChars_closeBrace]
    simp only [List.append_assoc, List.cons_append]
    exact hread

/-- The compact form of an object, after its opening brace, gives its members. -/
theorem readMembers_compact {fields : Fields}
    (h : ∀ e ∈ fields, Spells levels (ofChars (compactChars e.2)) e.2) (u : Octets) :
    readMembers (readValue levels) (ofChars (compactMembers fields ++ ['\x7d']) ++ u) =
      .ok (fields, u) := by
  cases fields with
  | nil => rfl
  | cons m ms =>
    have hnone : IsSpaces [] := by simp [IsSpaces]
    have hread := readMembers_written (fun v => ofChars (compactChars v)) h hnone hnone u
    have htext := ofChars_joined compactMembers (fun m => stringChars m.1 ++ ':' :: compactChars m.2)
      (fun m => by rw [compactMembers])
      (fun m n ms => by rw [compactMembers, List.append_assoc, List.cons_append]) m ms
    have hmember := fun m => ofChars_member m compactChars
    simp only [hmember] at htext
    rw [ofChars_append, htext, ofChars_closeBrace]
    simp only [List.append_assoc, List.cons_append]
    exact hread

/-- The pretty form of a plain value that was read is read as this value, at any indent. -/
theorem spells_pretty {v : Json} (h : AsRead levels v) (hplain : Plain v) (level : Nat) :
    Spells levels (ofChars (prettyChars level v)) v := by
  induction h generalizing level with
  | null levels => exact spells_null
  | bool levels b =>
    cases b with
    | false => exact spells_bool false
    | true => exact spells_bool true
  | number levels hn => exact spells_number hn
  | string levels text => exact spells_string text
  | @array levels items hitems ih =>
    rw [plain_array_iff] at hplain
    cases items with
    | nil => exact spells_emptyArray
    | cons v vs =>
      have hspell := spells_array
        (fun v => ofChars (newLine (level + 1) ++ prettyChars (level + 1) v))
        (fun w hw => by
          rw [ofChars_append]
          exact (ih w hw (hplain w hw) (level + 1)).space (isSpaces_newLine _))
        (isSpaces_newLine level)
      have htext := ofChars_joined (prettyItems (level + 1))
        (fun v => newLine (level + 1) ++ prettyChars (level + 1) v)
        (fun v => by rw [prettyItems]) (fun v w vs => by rw [prettyItems]) v vs
      rw [prettyChars, ofChars_enclosed (by decide) (by decide), htext, List.append_assoc]
      exact hspell
  | @object levels fields hnodup hvalues ih =>
    obtain ⟨hholds, hplain⟩ := plain_object_iff.mp hplain
    obtain ⟨cs, hcs, hread⟩ := readMembers_pretty fun e he => ih e he (hplain e he) (level + 1)
    rw [hcs]
    exact spells_object hnodup hholds hread

/-- The compact form of a plain value that was read is read as this value. -/
theorem spells_compact {v : Json} (h : AsRead levels v) (hplain : Plain v) :
    Spells levels (ofChars (compactChars v)) v := by
  have hnone : IsSpaces [] := by simp [IsSpaces]
  induction h with
  | null levels => exact spells_null
  | bool levels b =>
    cases b with
    | false => exact spells_bool false
    | true => exact spells_bool true
  | number levels hn => exact spells_number hn
  | string levels text => exact spells_string text
  | @array levels items hitems ih =>
    rw [plain_array_iff] at hplain
    cases items with
    | nil => exact spells_emptyArray
    | cons v vs =>
      have hspell := spells_array (fun v => ofChars (compactChars v))
        (fun w hw => ih w hw (hplain w hw)) hnone
      have htext := ofChars_joined compactItems compactChars
        (fun v => by rw [compactItems]) (fun v w vs => by rw [compactItems]) v vs
      have hchars : compactChars (.array (v :: vs)) = '[' :: compactItems (v :: vs) ++ [] ++ [']'] := by
        rw [compactChars, List.append_nil]
      rw [hchars, ofChars_enclosed (by decide) (by decide), htext, List.append_assoc]
      exact hspell
  | @object levels fields hnodup hvalues ih =>
    obtain ⟨hholds, hplain⟩ := plain_object_iff.mp hplain
    rw [compactChars, List.cons_append]
    exact spells_object hnodup hholds (readMembers_compact fun e he => ih e he (hplain e he))

/-! ### Documents -/

/-- A text that is read as a value is a document with this value, also before white space. -/
theorem readDocument_of_spells {v : Json} {text after : Octets} (h : Spells maxLevels text v)
    (hafter : IsSpaces after) : readDocument (text ++ after) = .ok v := by
  have hends : endsValue after = true := by
    rw [← List.append_nil after]
    exact endsValue_append hafter rfl
  have hskip : skipSpace after = [] := by
    rw [← List.append_nil after, skipSpace_append hafter]
    rfl
  simp only [readDocument, h after hends, hskip, bind, Except.bind, List.isEmpty_nil, if_true]

/-- A plain value that was read and written with indents is read again. -/
theorem readDocument_pretty {v : Json} (h : AsRead maxLevels v) (hplain : Plain v) {after : Octets}
    (hafter : IsSpaces after) : readDocument (ofText v.pretty ++ after) = .ok v := by
  rw [pretty, ofText, String.toList_ofList]
  exact readDocument_of_spells (spells_pretty h hplain 0) hafter

/-- A plain value that was read and written on one line is read again. -/
theorem readDocument_compact {v : Json} (h : AsRead maxLevels v) (hplain : Plain v) {after : Octets}
    (hafter : IsSpaces after) : readDocument (ofText v.compact ++ after) = .ok v := by
  rw [compact, ofText, String.toList_ofList]
  exact readDocument_of_spells (spells_compact h hplain) hafter

end ListingCrawl.Json
