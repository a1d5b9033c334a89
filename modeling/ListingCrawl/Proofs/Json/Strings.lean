import ListingCrawl.Json.Lexical
import ListingCrawl.Json.Printer
import ListingCrawl.Proofs.Json.Locality
import ListingCrawl.Proofs.Text.Decoding

/-! A string literal is read back as the text that was written. Each character is either written as an
escape, which stands for its octets, or as itself, and then none of its octets means anything to the
reader. And whatever is read as a literal ends at its first quote that does not belong to an escape. -/

namespace ListingCrawl.Json

open Octets

/-- An octet that stands for itself inside a string literal. -/
def IsPlain (b : UInt8) : Prop :=
  b ≠ quote ∧ b ≠ backslash ∧ ¬b < 0x20

/-! ### One character -/

theorem ofChar_digitChar : ∀ n < 16, ofChar (Nat.digitChar n) = [hexDigit n] := by
  decide

theorem hexValue?_hexDigit : ∀ n < 16, hexValue? (hexDigit n) = some n := by
  decide

/-- A character below the surrogates by the last two of its four hexadecimal digits. -/
theorem readEscape_digits {high low : UInt8} {n : Nat} (hhigh : hexValue? high = some (n / 16))
    (hlow : hexValue? low = some (n % 16)) (hn : n < 0xd800) (u : Octets) :
    readEscape (0x75 :: 0x30 :: 0x30 :: high :: low :: u) = .ok (ofChar (Char.ofNat n), u) := by
  have hzero : hexValue? 0x30 = some 0 := by decide
  have hex : readHex4 (0x30 :: 0x30 :: high :: low :: u) = .ok (n, u) := by
    simp only [readHex4, hzero, hhigh, hlow, Nat.zero_mul, Nat.zero_add, Nat.div_add_mod']
  have hread : readUnicode (0x30 :: 0x30 :: high :: low :: u) = .ok (ofChar (Char.ofNat n), u) := by
    rw [readUnicode, hex]
    simp only [bind, Except.bind]
    rw [if_neg (by omega), if_neg (by omega)]
  exact hread

/-- The escape of a control character that has no letter of its own. -/
theorem readEscape_control {c : Char} (hc : c.toNat < 0x20) (u : Octets) :
    readEscape (ofChars ['u', '0', '0', Nat.digitChar (c.toNat / 16), Nat.digitChar (c.toNat % 16)] ++
      u) = .ok (ofChar c, u) := by
  have hspell : ofChars ['u', '0', '0', Nat.digitChar (c.toNat / 16), Nat.digitChar (c.toNat % 16)] =
      [0x75, 0x30, 0x30, hexDigit (c.toNat / 16), hexDigit (c.toNat % 16)] := by
    simp only [ofChars_cons, ofChar_digitChar (c.toNat / 16) (by omega),
      ofChar_digitChar (c.toNat % 16) (by omega)]
    rfl
  have hread := readEscape_digits (hexValue?_hexDigit (c.toNat / 16) (by omega))
    (hexValue?_hexDigit (c.toNat % 16) (by omega)) (by omega) u
  rw [Char.ofNat_toNat] at hread
  rw [hspell]
  exact hread

/-- A character is written as an escape that stands for it, or as itself. -/
theorem escapedChar_cases (c : Char) :
    (∃ e, ofChars (escapedChar c) = backslash :: e ∧ ∀ u, readEscape (e ++ u) = .ok (ofChar c, u)) ∨
      (escapedChar c = [c] ∧ ∀ b ∈ ofChar c, IsPlain b) := by
  unfold escapedChar
  split_ifs with hquote hback hb hf hn hr ht hlow
  · exact .inl ⟨[quote], by subst hquote; rfl, fun u => by subst hquote; rfl⟩
  · exact .inl ⟨[backslash], by subst hback; rfl, fun u => by subst hback; rfl⟩
  · exact .inl ⟨[0x62], rfl, fun u => by subst hb; rfl⟩
  · exact .inl ⟨[0x66], rfl, fun u => by subst hf; rfl⟩
  · exact .inl ⟨[0x6e], rfl, fun u => by subst hn; rfl⟩
  · exact .inl ⟨[0x72], rfl, fun u => by subst hr; rfl⟩
  · exact .inl ⟨[0x74], rfl, fun u => by subst ht; rfl⟩
  · exact .inl ⟨_, ofChars_cons_ascii (by decide) _, readEscape_control hlow⟩
  · refine .inr ⟨rfl, fun b hmem => ?_⟩
    -- an ASCII octet would be the character itself
    have hne : ∀ m : Char, m.toNat < 0x80 → c ≠ m → b.toNat ≠ m.toNat := by
      intro m hm hcm hbm
      have := toNat_of_mem_ofChar (by omega) hmem
      exact hcm (Char.toNat_inj.mp (by omega))
    refine ⟨fun h => ?_, fun h => ?_, fun h => ?_⟩
    · exact hne '"' (by decide) hquote (by rw [h]; rfl)
    · exact hne '\\' (by decide) hback (by rw [h]; rfl)
    · have hb : b.toNat < 0x20 := UInt8.lt_iff_toNat_lt.mp h
      have := toNat_of_mem_ofChar (by omega) hmem
      omega

/-! ### Literals -/

variable {cs r s : Octets} {n : Nat}

/-- What stands for itself is taken as it is. -/
theorem readContent_plain {bs : Octets} (hbs : ∀ b ∈ bs, IsPlain b)
    (hrest : ∀ fuel : Octets, n < fuel.length → readContent fuel s = .ok (cs, r))
    (fuel : Octets) (hfuel : bs.length + n < fuel.length) :
    readContent fuel (bs ++ s) = .ok (bs ++ cs, r) := by
  induction bs generalizing fuel with
  | nil => exact hrest fuel (by simpa using hfuel)
  | cons b bs ih =>
    obtain ⟨⟨hquote, hback, hlow⟩, hbs⟩ := List.forall_mem_cons.mp hbs
    cases fuel with
    | nil => simp at hfuel
    | cons _ fuel =>
      simp only [List.length_cons] at hfuel
      simp only [List.cons_append, readContent, if_neg hquote, if_neg hback, if_neg hlow,
        ih hbs fuel (by omega), bind, Except.bind]

/-- An escape is taken as what it stands for. -/
theorem readContent_escape {e o : Octets} (he : readEscape (e ++ s) = .ok (o, s))
    (hrest : ∀ fuel : Octets, n < fuel.length → readContent fuel s = .ok (cs, r))
    (fuel : Octets) (hfuel : n + 1 < fuel.length) :
    readContent fuel (backslash :: (e ++ s)) = .ok (o ++ cs, r) := by
  cases fuel with
  | nil => simp at hfuel
  | cons _ fuel =>
    simp only [List.length_cons] at hfuel
    have hne : backslash ≠ quote := by decide
    simp only [readContent, if_neg hne, if_true, he, hrest fuel (by omega), bind, Except.bind]

/-- The content of a literal is read as the octets of the text. -/
theorem readContent_escaped (cs : List Char) (u fuel : Octets)
    (hfuel : (ofChars (cs.flatMap escapedChar)).length < fuel.length) :
    readContent fuel (ofChars (cs.flatMap escapedChar) ++ quote :: u) = .ok (ofChars cs, u) := by
  induction cs generalizing fuel with
  | nil =>
    cases fuel with
    | nil => simp at hfuel
    | cons _ fuel => rfl
  | cons c cs ih =>
    rw [List.flatMap_cons, ofChars_append, List.length_append] at hfuel
    rw [List.flatMap_cons, ofChars_append, List.append_assoc, ofChars_cons c]
    obtain ⟨e, hc, he⟩ | ⟨hc, hplain⟩ := escapedChar_cases c
    · rw [hc, List.length_cons] at hfuel
      rw [hc]
      exact readContent_escape (he _) ih fuel (by omega)
    · rw [hc, ofChars_singleton] at hfuel
      rw [hc, ofChars_singleton]
      exact readContent_plain hplain ih fuel hfuel

/-- A literal is read, after its opening quote, as the text that it was written for. -/
theorem readString_escaped (text : String) (u : Octets) :
    readString (ofChars (text.toList.flatMap escapedChar) ++ quote :: u) = .ok (text, u) := by
  have hcontent := readContent_escaped text.toList u
    (ofChars (text.toList.flatMap escapedChar) ++ quote :: u) (by simp)
  simp only [readString, hcontent, bind, Except.bind, toText?_ofChars, String.ofList_toList]

theorem ofChars_stringChars (text : String) : ofChars (stringChars text) =
    quote :: ofChars (text.toList.flatMap escapedChar) ++ [quote] := by
  have hquote : ofChar '"' = [quote] := ofChar_of_lt (by decide)
  rw [stringChars, ofChars_append, ofChars_cons, ofChars_singleton, hquote]
  rfl

/-! ### What is read -/

/-- What stands between the quotes of a literal: a backslash comes with the octet behind it. -/
inductive IsContent : Octets → Prop where
  | nil : IsContent []
  | plain {b : UInt8} {c : Octets} (hb : IsPlain b) (h : IsContent c) : IsContent (b :: c)
  | escape {x : UInt8} {c : Octets} (h : IsContent c) : IsContent (backslash :: x :: c)

theorem IsContent.append {c d : Octets} (hc : IsContent c) (hd : IsContent d) : IsContent (c ++ d) := by
  induction hc with
  | nil => exact hd
  | plain hb _ ih => exact .plain hb ih
  | escape _ ih => exact .escape ih

theorem isPlain_of_hexValue? {b : UInt8} {n : Nat} (h : hexValue? b = some n) : IsPlain b := by
  refine ⟨?_, ?_, fun hlow => ?_⟩
  · rintro rfl
    cases h
  · rintro rfl
    cases h
  · have hb : b.toNat < 0x20 := UInt8.lt_iff_toNat_lt.mp hlow
    simp only [hexValue?] at h
    split_ifs at h <;> omega

theorem content_of_readHex4 {s r : Octets} {n : Nat} (h : readHex4 s = .ok (n, r)) :
    ∃ c, IsContent c ∧ s = c ++ r := by
  unfold readHex4 at h
  split at h
  · next w x y z rest =>
    split at h
    · next hw hx hy hz =>
      cases h
      exact ⟨[w, x, y, z], .plain (isPlain_of_hexValue? hw) (.plain (isPlain_of_hexValue? hx)
        (.plain (isPlain_of_hexValue? hy) (.plain (isPlain_of_hexValue? hz) .nil))), rfl⟩
    · cases h
  · cases h

theorem content_of_readLowSurrogate {high : Nat} {s o r : Octets}
    (h : readLowSurrogate high s = .ok (o, r)) : ∃ c, IsContent c ∧ s = c ++ r := by
  obtain ⟨t, rfl, hdigits⟩ := readLowSurrogate_eq_ok.mp h
  rw [readLowDigits, bind_eq_ok] at hdigits
  obtain ⟨⟨low, u⟩, hlow, hread⟩ := hdigits
  obtain ⟨c, hc, rfl⟩ := content_of_readHex4 hlow
  dsimp only at hread
  split at hread
  · obtain ⟨-, rfl⟩ := Prod.mk.inj (Except.ok.inj hread)
    exact ⟨backslash :: 0x75 :: c, .escape hc, rfl⟩
  · cases hread

theorem content_of_readUnicode {s o r : Octets} (h : readUnicode s = .ok (o, r)) :
    ∃ c, IsContent c ∧ s = c ++ r := by
  rw [readUnicode, bind_eq_ok] at h
  obtain ⟨⟨n, t⟩, hn, h⟩ := h
  obtain ⟨c, hc, rfl⟩ := content_of_readHex4 hn
  dsimp only at h
  split at h
  · cases h
  · split at h
    · obtain ⟨d, hd, rfl⟩ := content_of_readLowSurrogate h
      exact ⟨c ++ d, hc.append hd, (List.append_assoc c d r).symm⟩
    · cases h
      exact ⟨c, hc, rfl⟩

/-- The octet behind a backslash and what belongs to it. -/
theorem content_of_readEscape {s o r : Octets} (h : readEscape s = .ok (o, r)) :
    ∃ x c, IsContent c ∧ s = x :: c ++ r := by
  cases s with
  | nil => cases h
  | cons x s =>
    by_cases hu : x = 0x75
    · subst hu
      obtain ⟨c, hc, rfl⟩ := content_of_readUnicode h
      exact ⟨0x75, c, hc, rfl⟩
    · have hs : s = r := by
        simp only [readEscape, if_neg hu] at h
        repeat' split at h
        all_goals
          cases h
        all_goals rfl
      exact ⟨x, [], .nil, by rw [hs]; rfl⟩

/-- A literal ends at the first quote that does not belong to an escape. -/
theorem content_of_readContent {fuel s o r : Octets} (h : readContent fuel s = .ok (o, r)) :
    ∃ c, IsContent c ∧ s = c ++ quote :: r := by
  induction fuel generalizing s o with
  | nil => cases h
  | cons _ fuel ih =>
    cases s with
    | nil => cases h
    | cons b s =>
      simp only [readContent] at h
      split at h
      · next hb =>
        cases h
        exact ⟨[], .nil, by rw [hb]; rfl⟩
      · next hquote =>
        split at h
        · next hb =>
          simp only [bind_eq_ok] at h
          obtain ⟨⟨e, t⟩, he, ⟨cs, u⟩, hcs, h⟩ := h
          cases h
          obtain ⟨x, c, hc, rfl⟩ := content_of_readEscape he
          obtain ⟨d, hd, rfl⟩ := ih hcs
          exact ⟨b :: x :: (c ++ d), hb ▸ .escape (hc.append hd), by simp⟩
        · next hback =>
          split at h
          · cases h
          · next hcontrol =>
            simp only [bind_eq_ok] at h
            obtain ⟨⟨cs, u⟩, hcs, h⟩ := h
            cases h
            obtain ⟨d, hd, rfl⟩ := ih hcs
            exact ⟨b :: d, .plain ⟨hquote, hback, hcontrol⟩ hd, rfl⟩

theorem content_of_readString {s r : Octets} {text : String} (h : readString s = .ok (text, r)) :
    ∃ c, IsContent c ∧ s = c ++ quote :: r := by
  rw [readString, bind_eq_ok] at h
  obtain ⟨⟨content, t⟩, hcontent, h⟩ := h
  dsimp only at h
  split at h
  · cases h
    exact content_of_readContent hcontent
  · cases h

end ListingCrawl.Json
