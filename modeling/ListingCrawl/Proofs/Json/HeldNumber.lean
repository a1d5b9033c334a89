import ListingCrawl.Json.Reader
import ListingCrawl.Proofs.Except

/-! Objects that hold a number. Whether an object is one shows in its first key, before its other members are
read; but where reading succeeds, this comes to the same as reading all members and then looking at them. So
whatever is known of the members of an object holds of every object that is read. -/

namespace ListingCrawl.Json

open Octets

/-- The value of an object that has these members. -/
def ofMembers? (ms : List (String × Json)) : Option Json :=
  if Fields.holdsNumber ms then
    match ms with
    | [(_, .string text)] => (readNumeral (ofText text)).toOption.map .number
    | _ => none
  else some (.object (Fields.ofEntries ms))

theorem ofMembers?_eq_object_iff {ms : List (String × Json)} {fs : Fields} :
    ofMembers? ms = some (.object fs) ↔ Fields.holdsNumber ms = false ∧ Fields.ofEntries ms = fs := by
  unfold ofMembers?
  split
  · next hholds =>
    rw [hholds]
    constructor
    · intro h
      split at h
      · obtain ⟨_, -, ⟨⟩⟩ := Option.map_eq_some_iff.mp h
      · cases h
    · rintro ⟨⟨⟩, -⟩
  · next hholds =>
    rw [Bool.not_eq_true] at hholds
    simp [hholds]

/-- An object is either one that holds a number, or one that is read as it is. -/
theorem ofMembers?_eq_some_iff {ms : List (String × Json)} {v : Json} : ofMembers? ms = some v ↔
    (∃ text token, ms = [(Fields.numberKey, .string text)] ∧ readNumeral (ofText text) = .ok token ∧
      v = .number token) ∨ (Fields.holdsNumber ms = false ∧ v = .object (Fields.ofEntries ms)) := by
  constructor
  · intro h
    unfold ofMembers? at h
    split at h
    · next hholds =>
      left
      split at h
      · next key text =>
        obtain rfl : key = Fields.numberKey := by simpa [Fields.holdsNumber] using hholds
        obtain ⟨token, htoken, rfl⟩ := Option.map_eq_some_iff.mp h
        cases hread : readNumeral (ofText text) with
        | error e =>
          rw [hread] at htoken
          cases htoken
        | ok token' =>
          rw [hread] at htoken
          cases htoken
          exact ⟨text, token, rfl, hread, rfl⟩
      · cases h
    · next hholds =>
      cases h
      exact .inr ⟨by simpa using hholds, rfl⟩
  · rintro (⟨text, token, rfl, hread, rfl⟩ | ⟨hholds, rfl⟩)
    · simp [ofMembers?, Fields.holdsNumber, hread, Except.toOption]
    · exact ofMembers?_eq_object_iff.mpr ⟨hholds, rfl⟩

/-! ### Reading -/

/-- The reader reads string literals as texts, and nothing else. -/
def ReadsTexts (value : Reader Json) : Prop :=
  ∀ s text r, value s = .ok (.string text, r) ↔
    ∃ t, skipSpace s = quote :: t ∧ readString t = .ok (text, r)

variable {value : Reader Json} {s r : Octets} {ms : List (String × Json)} {v : Json} {key : String}

theorem readMember_eq_ok : readMember value s = .ok ((key, v), r) ↔
    ∃ t u, readString s = .ok (key, t) ∧ skipSpace t = colon :: u ∧ value u = .ok (v, r) := by
  rw [readMember, bind_eq_ok]
  constructor
  · rintro ⟨⟨key', t⟩, hkey, h⟩
    dsimp only at h
    split at h
    · cases h
    · next b u hskip =>
      split at h
      · next hb =>
        subst hb
        obtain ⟨⟨v', r'⟩, hv, h⟩ := bind_eq_ok.mp h
        cases h
        exact ⟨t, u, hkey, hskip, hv⟩
      · cases h
  · rintro ⟨t, u, hkey, hskip, hv⟩
    refine ⟨(key, t), hkey, ?_⟩
    simp only [hskip, if_true, hv, bind, Except.bind]

theorem readHeldNumber_eq_ok : readHeldNumber s = .ok (v, r) ↔ ∃ t text token, skipSpace s = quote :: t ∧
    readString t = .ok (text, r) ∧ readNumeral (ofText text) = .ok token ∧ v = .number token := by
  rw [readHeldNumber]
  cases skipSpace s with
  | nil => simp
  | cons b t =>
    by_cases hb : b = quote
    · simp only [hb, if_true, bind_eq_ok]
      constructor
      · rintro ⟨⟨text, r'⟩, htext, token, htoken, h⟩
        cases h
        exact ⟨t, text, token, rfl, htext, htoken, rfl⟩
      · rintro ⟨_, text, token, ⟨⟩, htext, htoken, rfl⟩
        exact ⟨(text, r), htext, token, htoken, rfl⟩
    · simp only [if_neg hb, bind_eq_ok]
      constructor
      · rintro ⟨_, -, ⟨⟩⟩
      · rintro ⟨_, _, _, heq, -⟩
        exact absurd (List.cons.inj heq).1 hb

theorem firstKey?_eq_some_iff : firstKey? s = some key ↔
    ∃ t u, skipSpace s = quote :: t ∧ readString t = .ok (key, u) := by
  rw [firstKey?]
  cases skipSpace s with
  | nil => simp
  | cons b t =>
    by_cases hb : b = quote
    · cases hkey : readString t with
      | error e => simp [hb, hkey, Except.toOption]
      | ok x =>
        obtain ⟨key', u⟩ := x
        simp [hb, hkey, Except.toOption]
    · simp [hb]

/-- The first key of an object is that of its first member. -/
theorem head?_of_readMembers (h : readMembers value s = .ok (ms, r)) :
    ms.head?.map (·.1) = firstKey? s := by
  unfold readMembers at h
  unfold firstKey?
  split at h
  · cases h
  · split at h
    · next hclose =>
      cases h
      rw [hclose, if_neg (by decide)]
      rfl
    · split at h
      · next hquote =>
        rw [if_pos hquote]
        obtain ⟨⟨⟨key, v⟩, t⟩, hm, h⟩ := bind_eq_ok.mp h
        obtain ⟨⟨ms', r'⟩, -, h⟩ := bind_eq_ok.mp h
        cases h
        obtain ⟨t', -, hkey, -⟩ := readMember_eq_ok.mp hm
        rw [hkey]
        rfl
      · cases h

theorem holdsNumber_of_readMembers (h : readMembers value s = .ok (ms, r)) :
    Fields.holdsNumber ms = true ↔ firstKey? s = some Fields.numberKey := by
  rw [← head?_of_readMembers h, Fields.holdsNumber]
  cases ms with
  | nil => simp
  | cons m ms => simp

/-- After the last member only the closing brace can come. -/
theorem readMoreMembers_eq_nil {fuel : Octets} (hfuel : fuel ≠ []) :
    readMoreMembers value fuel s = .ok ([], r) ↔ skipSpace s = closeBrace :: r := by
  obtain ⟨_, fuel, rfl⟩ := List.exists_cons_of_ne_nil hfuel
  rw [readMoreMembers]
  constructor
  · intro h
    split at h
    · cases h
    · next b t hskip =>
      split at h
      · next hb =>
        cases h
        rw [hskip, hb]
      · split at h
        · split at h
          · cases h
          · split at h
            · obtain ⟨_, -, h⟩ := bind_eq_ok.mp h
              obtain ⟨_, -, ⟨⟩⟩ := bind_eq_ok.mp h
            · cases h
        · cases h
  · intro h
    simp only [h, if_true]

/-- The members of an object of which the first key is read already. -/
theorem readMembers_of_quote {t u : Octets} (hskip : skipSpace s = quote :: t)
    (hkey : readString t = .ok (key, u)) : readMembers value s = .ok (ms, r) ↔ ∃ v w ms' x,
      ms = (key, v) :: ms' ∧ skipSpace u = colon :: w ∧ value w = .ok (v, x) ∧
        readMoreMembers value x x = .ok (ms', r) := by
  have hne : quote ≠ closeBrace := by decide
  simp only [readMembers, hskip, if_neg hne, if_true, bind_eq_ok]
  constructor
  · rintro ⟨⟨⟨key', v⟩, x⟩, hm, ⟨ms', r'⟩, hmore, h⟩
    cases h
    obtain ⟨u', w, hkey', hcolon, hv⟩ := readMember_eq_ok.mp hm
    cases hkey.symm.trans hkey'
    exact ⟨v, w, ms', x, rfl, hcolon, hv, hmore⟩
  · rintro ⟨v, w, ms', x, rfl, hcolon, hv, hmore⟩
    exact ⟨((key, v), x), readMember_eq_ok.mpr ⟨u, w, hkey, hcolon, hv⟩, (ms', r), hmore, rfl⟩

/-- An object whose first key is the reserved one. -/
theorem readObject_of_numberKey {t u : Octets} (hskip : skipSpace s = quote :: t)
    (hkey : readString t = .ok (Fields.numberKey, u)) : readObject value s = .ok (v, r) ↔ ∃ w x,
      skipSpace u = colon :: w ∧ readHeldNumber w = .ok (v, x) ∧ skipSpace x = closeBrace :: r := by
  have hfirst : firstKey? s = some Fields.numberKey := firstKey?_eq_some_iff.mpr ⟨t, u, hskip, hkey⟩
  rw [readObject, if_pos hfirst, hskip, List.tail_cons, bind_eq_ok]
  constructor
  · rintro ⟨⟨⟨key', v'⟩, x⟩, hm, h⟩
    obtain ⟨u', w, hkey', hcolon, hv⟩ := readMember_eq_ok.mp hm
    cases hkey.symm.trans hkey'
    refine ⟨w, x, hcolon, ?_⟩
    dsimp only at h
    split at h
    · cases h
    · next b x' hclose =>
      split at h
      · next hb =>
        cases h
        exact ⟨hv, by rw [hclose, hb]⟩
      · cases h
  · rintro ⟨w, x, hcolon, hv, hclose⟩
    refine ⟨((Fields.numberKey, v), x), readMember_eq_ok.mpr ⟨u, w, hkey, hcolon, hv⟩, ?_⟩
    simp only [hclose, if_true]

theorem readObject_iff_of_readsTexts (hvalue : ReadsTexts value) : readObject value s = .ok (v, r) ↔
    ∃ ms, readMembers value s = .ok (ms, r) ∧ ofMembers? ms = some v := by
  by_cases hfirst : firstKey? s = some Fields.numberKey
  · obtain ⟨t, u, hskip, hkey⟩ := firstKey?_eq_some_iff.mp hfirst
    simp only [readObject_of_numberKey hskip hkey, readMembers_of_quote hskip hkey]
    have hne : ∀ {x : Octets}, skipSpace x = closeBrace :: r → x ≠ [] := by
      rintro x hx rfl
      cases hx
    constructor
    · rintro ⟨w, x, hcolon, hheld, hclose⟩
      obtain ⟨y, text, token, hquote, htext, htoken, rfl⟩ := readHeldNumber_eq_ok.mp hheld
      refine ⟨_, ⟨.string text, w, [], x, rfl, hcolon, (hvalue w text x).mpr ⟨y, hquote, htext⟩,
        (readMoreMembers_eq_nil (hne hclose)).mpr hclose⟩, ?_⟩
      exact ofMembers?_eq_some_iff.mpr (.inl ⟨text, token, rfl, htoken, rfl⟩)
    · rintro ⟨_, ⟨m, w, ms, x, rfl, hcolon, hm, hmore⟩, hv⟩
      obtain ⟨text, token, heq, htoken, rfl⟩ | ⟨hholds, -⟩ := ofMembers?_eq_some_iff.mp hv
      · cases heq
        obtain ⟨y, hquote, htext⟩ := (hvalue w text x).mp hm
        refine ⟨w, x, hcolon, readHeldNumber_eq_ok.mpr ⟨y, text, token, hquote, htext, htoken, rfl⟩, ?_⟩
        cases x with
        | nil => cases hmore
        | cons _ x => exact (readMoreMembers_eq_nil (by simp)).mp hmore
      · cases hholds
  · rw [readObject, if_neg hfirst, bind_eq_ok]
    constructor
    · rintro ⟨⟨ms, r'⟩, hms, h⟩
      cases h
      exact ⟨ms, hms, ofMembers?_eq_object_iff.mpr ⟨by simpa [hfirst] using holdsNumber_of_readMembers hms, rfl⟩⟩
    · rintro ⟨ms, hms, hv⟩
      obtain ⟨text, token, rfl, -, -⟩ | ⟨-, rfl⟩ := ofMembers?_eq_some_iff.mp hv
      · exact absurd ((holdsNumber_of_readMembers hms).mp rfl) hfirst
      · exact ⟨(ms, r), hms, rfl⟩

/-- One level: what an object gives is a number or an object. -/
theorem readsTexts_of_below {levels : Nat}
    (hbelow : ∀ below, levels = below + 1 → ReadsTexts (readValue below)) :
    ReadsTexts (readValue levels) := by
  intro s text r
  rw [readValue.eq_def]
  cases skipSpace s with
  | nil => simp
  | cons b t =>
    by_cases hquote : b = quote
    · subst hquote
      have hfirst : quote ≠ 0x6e ∧ quote ≠ 0x74 ∧ quote ≠ 0x66 ∧ ¬(quote = 0x2d ∨ isDigit quote = true) := by
        decide
      obtain ⟨hnull, htrue, hfalse, hnumber⟩ := hfirst
      simp only [if_neg hnull, if_neg htrue, if_neg hfalse, if_neg hnumber, if_true, bind_eq_ok]
      constructor
      · rintro ⟨⟨text', r'⟩, htext, h⟩
        cases h
        exact ⟨t, rfl, htext⟩
      · rintro ⟨_, ⟨⟩, htext⟩
        exact ⟨(text, r), htext, rfl⟩
    · simp only [if_neg hquote]
      constructor
      · intro h
        exfalso
        split at h
        · obtain ⟨_, -, ⟨⟩⟩ := bind_eq_ok.mp h
        split at h
        · obtain ⟨_, -, ⟨⟩⟩ := bind_eq_ok.mp h
        split at h
        · obtain ⟨_, -, ⟨⟩⟩ := bind_eq_ok.mp h
        split at h
        · obtain ⟨_, -, ⟨⟩⟩ := bind_eq_ok.mp h
        split at h
        · cases levels with
          | zero => cases h
          | succ below => obtain ⟨_, -, ⟨⟩⟩ := bind_eq_ok.mp h
        split at h
        · cases levels with
          | zero => cases h
          | succ below =>
            obtain ⟨ms, -, hv⟩ := (readObject_iff_of_readsTexts (hbelow below rfl)).mp h
            obtain ⟨_, _, -, -, ⟨⟩⟩ | ⟨-, ⟨⟩⟩ := ofMembers?_eq_some_iff.mp hv
        · cases h
      · rintro ⟨_, heq, -⟩
        exact absurd (List.cons.inj heq).1 hquote

/-- The reader of values reads a text where there is a string literal. -/
theorem readsTexts_readValue (levels : Nat) : ReadsTexts (readValue levels) := by
  induction levels with
  | zero => exact readsTexts_of_below fun _ h => by cases h
  | succ levels ih =>
    refine readsTexts_of_below fun below h => ?_
    obtain rfl : levels = below := by omega
    exact ih

/-- Reading an object comes to reading its members and looking at them. -/
theorem readObject_eq_ok {levels : Nat} : readObject (readValue levels) s = .ok (v, r) ↔
    ∃ ms, readMembers (readValue levels) s = .ok (ms, r) ∧ ofMembers? ms = some v :=
  readObject_iff_of_readsTexts (readsTexts_readValue levels)

end ListingCrawl.Json
