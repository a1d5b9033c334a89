import ListingCrawl.Proofs.Artifact.RawControls
import ListingCrawl.Proofs.Json.ClosingBrace
import ListingCrawl.Proofs.Text.Cut
import ListingCrawl.Proofs.Text.Decoding

/-! Page states that are no JSON as a whole. What counts then is the object behind the first key `extracted`,
from its opening to its closing brace, and nothing that stands before or after it. Control characters may stand
raw in its string literals: with these escaped it is the same object, and escaping them does not move its
closing brace. -/

namespace ListingCrawl

open Octets (ofChars ofText openBrace)

/-! ### White space -/

/-- White space has no octet of an ASCII character that is no white space. -/
theorem Text.not_mem_ofText_of_isBlankText {s : String} {b : UInt8} (hs : isBlankText s = true)
    (hb : b.toNat < 0x80) (hchar : isBlank (Char.ofNat b.toNat) = false) : b ∉ ofText s := by
  intro hmem
  obtain ⟨c, hc, hbc⟩ := List.mem_flatMap.mp hmem
  have hn := Octets.toNat_of_mem_ofChar hb hbc
  rw [← hn, Char.ofNat_toNat, isBlankText_iff.mp hs c hc] at hchar
  cases hchar

/-! ### Core fields -/

namespace Artifact

namespace CoreFields

variable {fs : Fields} {key text : String} {core : CoreFields}

/-- A member gives a text: one that is not blank, without the blanks around it, or a number as it is
written. -/
inductive GivesText (fs : Fields) (key text : String) : Prop
  | string {s : String} (h : fs.get? key = some (.string s)) (htrimmed : Text.trimmed? s = some text)
  | number (h : fs.get? key = some (.number text)) (hne : text ≠ "")

/-- The core fields of an object that has them all. -/
structure IsCoreOf (core : CoreFields) (fs : Fields) : Prop where
  title : GivesText fs "title" core.title
  description : GivesText fs "description" core.description
  currency : GivesText fs "currency" core.currency
  price : fs.get? "price" = some core.price
  priced : core.price ≠ .null ∧ ∀ s, core.price = .string s → Text.isBlankText s = false

theorem givesText_iff : GivesText fs key text ↔ textOf fs key = text ∧ text ≠ "" := by
  have hblank : ∀ s, Text.trimmed? s = some text ↔ Text.trim s = text ∧ text ≠ "" := by
    intro s
    rw [Text.trimmed?_eq_some_iff, Text.isBlankText, beq_eq_false_iff_ne, and_comm]
    exact and_congr_right fun h => by rw [h]
  constructor
  · rintro (⟨h, htrimmed⟩ | ⟨h, hne⟩)
    · simpa only [textOf, h] using (hblank _).mp htrimmed
    · simpa only [textOf, h, true_and] using hne
  · rintro ⟨htext, hne⟩
    unfold textOf at htext
    split at htext
    · next s h => exact .string h ((hblank s).mpr ⟨htext, hne⟩)
    · next token h => exact .number (htext ▸ h) hne
    · exact absurd htext.symm hne

theorem hasPrice_iff : core.hasPrice = true ↔
    core.price ≠ .null ∧ ∀ s, core.price = .string s → Text.isBlankText s = false := by
  unfold hasPrice
  cases core.price <;> simp

/-- An object gives its core fields exactly if it has them all. -/
theorem ofFields?_eq_some_iff : ofFields? fs = some core ↔ core.IsCoreOf fs := by
  constructor
  · intro h
    unfold ofFields? at h
    dsimp only at h
    split at h
    · next hcomplete =>
      cases h
      simp only [isComplete, Bool.and_eq_true, Bool.not_eq_true', String.isEmpty_eq_false_iff,
        hasPrice_iff] at hcomplete
      obtain ⟨⟨⟨htitle, hdescription⟩, hcurrency⟩, hprice⟩ := hcomplete
      refine ⟨givesText_iff.mpr ⟨rfl, htitle⟩, givesText_iff.mpr ⟨rfl, hdescription⟩,
        givesText_iff.mpr ⟨rfl, hcurrency⟩, ?_, hprice⟩
      cases hget : fs.get? "price" with
      | none => exact absurd (by rw [hget]; rfl) hprice.1
      | some v => rfl
    · cases h
  · rintro ⟨htitle, hdescription, hcurrency, hprice, hpriced⟩
    rw [givesText_iff] at htitle hdescription hcurrency
    have hcore : ({ title := textOf fs "title", description := textOf fs "description"
                    currency := textOf fs "currency", price := (fs.get? "price").getD .null } : CoreFields) =
        core := by
      rw [htitle.1, hdescription.1, hcurrency.1, hprice]
      rfl
    have hcomplete : core.isComplete = true := by
      simp only [isComplete, Bool.and_eq_true, Bool.not_eq_true', String.isEmpty_eq_false_iff,
        hasPrice_iff]
      exact ⟨⟨⟨htitle.2, hdescription.2⟩, hcurrency.2⟩, hpriced⟩
    unfold ofFields?
    dsimp only
    rw [hcore, if_pos hcomplete]

/-! ### Fragments -/

/-- The key of the core fields, as it stands in a page state. -/
def extractedKey : String := "\"extracted\""

/-- The fragment is the object behind the first key, without anything around it. -/
theorem extractedFragment?_eq {text before gap gap' object after : String} {fields : Fields}
    (htext : text = before ++ extractedKey ++ gap ++ ":" ++ gap' ++ object ++ after)
    (hfirst : ∀ front back, text = front ++ extractedKey ++ back → before.length ≤ front.length)
    (hgap : Text.isBlankText gap = true) (hgap' : Text.isBlankText gap' = true)
    (hobject : Json.IsRawObjectText object fields) :
    extractedFragment? (ofText text) = some (ofText object) := by
  obtain ⟨c, hc⟩ := hobject.eq_openBrace
  have hkey : Text.cutAt? (ofText extractedKey) (ofText text) =
      some (ofText before, ofText (gap ++ ":" ++ gap' ++ object ++ after)) := by
    refine Text.cutAt?_ofChars (by decide) (by simp [extractedKey])
      (Text.cutAt?_eq_some_iff.mpr ⟨?_, fun front back h => ?_⟩)
    · simp only [htext, String.toList_append, List.append_assoc]
    · have hsplit : text = String.ofList front ++ extractedKey ++ String.ofList back := by
        rw [← String.toList_inj, h]
        simp
      simpa only [String.length_toList, String.length_ofList] using hfirst _ _ hsplit
  have hcolon : Text.cutAt? [Octets.colon] (ofText (gap ++ ":" ++ gap' ++ object ++ after)) =
      some (ofText gap, ofText (gap' ++ object ++ after)) := by
    have hnone : Octets.colon ∉ ofText gap :=
      Text.not_mem_ofText_of_isBlankText hgap (by decide) (by decide)
    have hcut := Text.cutAt?_singleton hnone (ofText (gap' ++ object ++ after))
    have hsplit : ofText (gap ++ ":" ++ gap' ++ object ++ after) =
        ofText gap ++ [Octets.colon] ++ ofText (gap' ++ object ++ after) := by
      simp only [Octets.ofText_append, List.append_assoc]
      rfl
    rw [hsplit, hcut]
  have hbrace : Text.cutAt? [openBrace] (ofText (gap' ++ object ++ after)) =
      some (ofText gap', c ++ ofText after) := by
    have hnone : openBrace ∉ ofText gap' :=
      Text.not_mem_ofText_of_isBlankText hgap' (by decide) (by decide)
    have hcut := Text.cutAt?_singleton hnone (c ++ ofText after)
    have hsplit : ofText (gap' ++ object ++ after) = ofText gap' ++ [openBrace] ++ (c ++ ofText after) := by
      simp only [Octets.ofText_append, hc, List.append_assoc, List.cons_append, List.nil_append]
    rw [hsplit, hcut]
  unfold extractedFragment?
  change Text.cutAt? (ofText "\"extracted\"") (ofText text) = _ at hkey
  simp only [hkey, hcolon, hbrace, hobject.objectEnd? hc, bind, Option.bind, pure]
  rw [← List.cons_append, List.take_left, hc]

/-- A page state that is no JSON, not even with control characters escaped, gives the core fields of the object
behind its first key `extracted`, whatever stands before and after this object; if the object has not all of
them, the page state gives none. -/
theorem ofPageState_fragment {text before gap gap' object after : String} {fields : Fields} {e : DocumentError}
    (hbroken : readEscaped (ofText text) = .error e)
    (htext : text = before ++ extractedKey ++ gap ++ ":" ++ gap' ++ object ++ after)
    (hfirst : ∀ front back, text = front ++ extractedKey ++ back → before.length ≤ front.length)
    (hgap : Text.isBlankText gap = true) (hgap' : Text.isBlankText gap' = true)
    (hobject : Json.IsRawObjectText object fields) :
    (∀ core, ofPageState (ofText text) = .ok core ↔ core.IsCoreOf fields) ∧
      ((∀ core, ¬IsCoreOf core fields) → ofPageState (ofText text) = .error (.badDocument e)) := by
  have hread : readObject (Json.escapeControls (ofText object)) = .ok fields :=
    readObject_eq_ok.mpr ⟨[], hobject.readValue_escapeControls⟩
  have hfragment : ofFragment? (ofText text) = ofFields? fields := by
    rw [ofFragment?, Octets.toTextLossy_ofText, extractedFragment?_eq htext hfirst hgap hgap' hobject,
      Option.bind_eq_bind, Option.bind_some, hread]
    rfl
  simp only [← ofFields?_eq_some_iff, ofPageState, hbroken, hfragment]
  cases ofFields? fields with
  | none => simp
  | some core => simp

/-- An object with a brace in a literal, and a line feed that may be spelled in two ways. -/
def shirtObject (lineFeed : String) : String :=
  "\x7b\"title\":\"T \x7bx" ++ lineFeed ++ "y\",\"description\":\"D\",\"currency\":\"TWD\",\"price\":2\x7d"

/-- The object in a text that is no JSON, with a raw line feed. -/
def brokenState : String :=
  "\x7bno \"json\" " ++ extractedKey ++ " " ++ ":" ++ "\n" ++ shirtObject "\n" ++ "\x7d,,"

theorem isRawObjectText_shirtObject : Json.IsRawObjectText (shirtObject "\n") [("title", .string "T \x7bx\ny"),
    ("description", .string "D"), ("currency", .string "TWD"), ("price", .number "2")] := by
  have hinside : (ofText "\x7b\"title\":\"T \x7bx").foldl Json.Quoting.next .outside = .inside := by
    decide +kernel
  have hstrict : ofText (shirtObject "\\n") = ofText "\x7b\"title\":\"T \x7bx" ++ ([Octets.backslash, 0x6e] ++
      ofText "y\",\"description\":\"D\",\"currency\":\"TWD\",\"price\":2\x7d") := by
    decide +kernel
  have hraw : ofText (shirtObject "\n") = ofText "\x7b\"title\":\"T \x7bx" ++ (0x0a ::
      ofText "y\",\"description\":\"D\",\"currency\":\"TWD\",\"price\":2\x7d") := by
    decide +kernel
  refine ⟨shirtObject "\\n", ⟨by decide +kernel, by decide +kernel⟩, ?_⟩
  rw [hstrict, hraw]
  refine .append _ ?_
  rw [hinside]
  exact .undo (by decide) (.letter (by decide)) (.refl _ _)

theorem ofPageState_fragment_braces :
    readEscaped (ofText brokenState) = .error (.badJson .keyNotString) ∧
      ofPageState (ofText brokenState) = .ok ⟨"T \x7bx\ny", "D", "TWD", .number "2"⟩ := by
  have hbroken : readEscaped (ofText brokenState) = .error (.badJson .keyNotString) := by decide +kernel
  have hcut : Text.cutAt? extractedKey.toList brokenState.toList = some ("\x7bno \"json\" ".toList,
      (" " ++ ":" ++ "\n" ++ shirtObject "\n" ++ "\x7d,,").toList) := by
    decide +kernel
  have hfirst : ∀ front back, brokenState = front ++ extractedKey ++ back →
      "\x7bno \"json\" ".length ≤ front.length := by
    intro front back h
    have hlists := congrArg String.toList h
    rw [String.toList_append, String.toList_append] at hlists
    simpa only [String.length_toList] using (Text.cutAt?_eq_some_iff.mp hcut).2 _ _ hlists
  have hcore : IsCoreOf ⟨"T \x7bx\ny", "D", "TWD", .number "2"⟩ [("title", .string "T \x7bx\ny"),
      ("description", .string "D"), ("currency", .string "TWD"), ("price", .number "2")] :=
    ofFields?_eq_some_iff.mp (by decide +kernel)
  have htext : brokenState =
      "\x7bno \"json\" " ++ extractedKey ++ " " ++ ":" ++ "\n" ++ shirtObject "\n" ++ "\x7d,," := rfl
  have hread := (ofPageState_fragment hbroken htext hfirst (by decide) (by decide) isRawObjectText_shirtObject).1
  exact ⟨hbroken, (hread _).mpr hcore⟩

end CoreFields

end Artifact

end ListingCrawl
