import Mathlib.Data.List.Basic
import ListingCrawl.Json.Basic

/-! The entries of an object as a map. Putting a value under one key and removing a key are described by
what is then found under each key, and by how two such changes one after the other can be exchanged. No
statement needs the keys to be distinct. -/

namespace ListingCrawl.Fields

variable {fs : Fields} {key other : String} {v w : Json}

/-! ### Looking up -/

theorem contains_iff : fs.contains key = true ↔ ∃ e ∈ fs, e.1 = key := by
  rw [contains, get?, List.lookup_isSome_iff]
  simp only [beq_iff_eq, eq_comm (a := key)]

theorem contains_iff_mem_keys : fs.contains key = true ↔ key ∈ fs.keys := by
  rw [contains_iff, keys, List.mem_map]

theorem filter_contains_keys : fs.keys.filter fs.contains = fs.keys :=
  List.filter_eq_self.mpr fun _ hk => contains_iff_mem_keys.mpr hk

theorem text?_eq_some_iff {fs : Fields} {key s : String} :
    fs.text? key = some s ↔ fs.get? key = some (.string s) := by
  unfold text?
  split
  · next t ht =>
    rw [ht]
    simp
  · next hne =>
    constructor
    · intro h
      cases h
    · intro h
      exact absurd h (hne s)

theorem get?_cons (e : String × Json) :
    get? (e :: fs) key = if e.1 = key then some e.2 else get? fs key := by
  obtain ⟨k, v⟩ := e
  rw [get?, List.lookup_cons, get?]
  by_cases h : k = key
  · rw [if_pos h, h, beq_self_eq_true]
  · rw [if_neg h, beq_false_of_ne (Ne.symm h)]

theorem get?_append {gs : Fields} : get? (fs ++ gs) key = (fs.get? key).or (gs.get? key) :=
  List.lookup_append

theorem contains_of_get? (h : fs.get? key = some v) : fs.contains key = true := by
  rw [contains, h, Option.isSome_some]

theorem mem_of_get? (h : fs.get? key = some v) : (key, v) ∈ fs := by
  induction fs with
  | nil => cases h
  | cons e fs ih =>
    rw [get?_cons] at h
    split at h
    · next hkey =>
      cases h
      rw [← hkey]
      exact List.mem_cons_self
    · exact List.mem_cons_of_mem e (ih h)

/-- Where no key stands twice, every entry counts. -/
theorem get?_of_mem (hnodup : fs.keys.Nodup) (h : (key, v) ∈ fs) : fs.get? key = some v := by
  induction fs with
  | nil => cases h
  | cons e fs ih =>
    rw [keys, List.map_cons, List.nodup_cons] at hnodup
    rw [get?_cons]
    obtain rfl | h := List.mem_cons.mp h
    · rw [if_pos rfl]
    · have hne : e.1 ≠ key := fun hkey => hnodup.1 (hkey ▸ List.mem_map_of_mem h)
      rw [if_neg hne, ih hnodup.2 h]

/-! ### Putting a value -/

theorem insert_of_contains (h : fs.contains key = true) :
    fs.insert key v = fs.map fun e => if e.1 = key then (key, v) else e := by
  rw [insert, if_pos h]

theorem insert_of_not_contains (h : fs.contains key = false) : fs.insert key v = fs ++ [(key, v)] := by
  rw [insert, if_neg (by simp [h])]

theorem mem_insert {e : String × Json} (h : e ∈ fs.insert key v) : e = (key, v) ∨ e ∈ fs := by
  cases hc : fs.contains key with
  | false =>
    rw [insert_of_not_contains hc, List.mem_append, List.mem_singleton] at h
    exact h.symm
  | true =>
    rw [insert_of_contains hc] at h
    obtain ⟨d, hd, rfl⟩ := List.mem_map.mp h
    by_cases hkey : d.1 = key
    · exact .inl (if_pos hkey)
    · exact .inr (by rwa [if_neg hkey])

/-- A key that has its place keeps it, and a new one comes at the end. -/
theorem keys_insert : (fs.insert key v).keys =
    if fs.contains key then fs.keys else fs.keys ++ [key] := by
  cases hc : fs.contains key with
  | true =>
    rw [insert_of_contains hc, if_pos rfl, keys, keys, List.map_map]
    refine List.map_congr_left fun e _ => ?_
    by_cases hk : e.1 = key <;> simp [hk]
  | false => simp [insert_of_not_contains hc, keys]

theorem nodup_keys_insert (h : fs.keys.Nodup) : (fs.insert key v).keys.Nodup := by
  rw [keys_insert]
  split
  · exact h
  · next hc =>
    have hnew : key ∉ fs.keys := by
      intro hmem
      obtain ⟨e, he, hk⟩ := List.mem_map.mp hmem
      exact hc (contains_iff.mpr ⟨e, he, hk⟩)
    refine List.nodup_append.mpr ⟨h, by simp, ?_⟩
    intro k hk other hother hsame
    rw [List.mem_singleton] at hother
    rw [hsame, hother] at hk
    exact hnew hk

theorem get?_map_other (h : key ≠ other) :
    get? (fs.map fun e => if e.1 = other then (other, v) else e) key = fs.get? key := by
  induction fs with
  | nil => rfl
  | cons e fs ih =>
    rw [List.map_cons, get?_cons, get?_cons, ih]
    split_ifs with he <;> simp_all [eq_comm]

@[simp] theorem get?_insert_self : (fs.insert key v).get? key = some v := by
  cases h : fs.contains key with
  | true =>
    rw [insert_of_contains h]
    obtain ⟨e, he, hkey⟩ := contains_iff.mp h
    clear h
    induction fs with
    | nil => cases he
    | cons d fs ih =>
      rw [List.map_cons, get?_cons]
      by_cases hd : d.1 = key
      · simp [hd]
      · rcases List.mem_cons.mp he with rfl | he
        · exact absurd hkey hd
        · simpa [hd] using ih he
  | false =>
    have hnone : fs.get? key = none := by simpa [contains] using h
    rw [insert_of_not_contains h, get?_append, hnone, get?_cons, if_pos rfl]
    rfl

theorem get?_insert_of_ne (h : key ≠ other) : (fs.insert other v).get? key = fs.get? key := by
  cases hc : fs.contains other with
  | true => rw [insert_of_contains hc, get?_map_other h]
  | false =>
    rw [insert_of_not_contains hc, get?_append, get?_cons, if_neg (Ne.symm h)]
    cases fs.get? key <;> rfl

@[simp] theorem contains_insert_self : (fs.insert key v).contains key = true :=
  contains_of_get? get?_insert_self

theorem contains_insert_of_ne (h : key ≠ other) :
    (fs.insert other v).contains key = fs.contains key := by
  rw [contains, get?_insert_of_ne h, contains]

/-- Of two values put under one key the later counts. -/
theorem insert_insert_self : (fs.insert key v).insert key w = fs.insert key w := by
  rw [insert_of_contains contains_insert_self]
  cases h : fs.contains key with
  | true =>
    rw [insert_of_contains h, insert_of_contains h, List.map_map]
    refine List.map_congr_left fun e _ => ?_
    by_cases he : e.1 = key <;> simp [he]
  | false =>
    rw [insert_of_not_contains h, insert_of_not_contains h, List.map_append]
    congr 1
    · rw [← List.map_id fs, List.map_map]
      refine List.map_congr_left fun e he => ?_
      have hne : e.1 ≠ key := fun hk => by simp [contains_iff.mpr ⟨e, he, hk⟩] at h
      simp [hne]
    · simp

/-- Values under two keys can be put in either order, if one of the keys has its place. -/
theorem insert_comm (h : key ≠ other) (hc : fs.contains key = true) :
    (fs.insert other w).insert key v = (fs.insert key v).insert other w := by
  rw [insert_of_contains (by rwa [contains_insert_of_ne h])]
  cases ho : fs.contains other with
  | true =>
    rw [insert_of_contains ho, insert_of_contains hc, insert_of_contains
      (by rw [← insert_of_contains hc, contains_insert_of_ne h.symm, ho]), List.map_map, List.map_map]
    refine List.map_congr_left fun e _ => ?_
    by_cases hk : e.1 = key
    · simp [hk, h]
    · by_cases ho : e.1 = other <;> simp [hk, ho, h.symm]
  | false =>
    rw [insert_of_not_contains ho, insert_of_contains hc, insert_of_not_contains
      (by rw [← insert_of_contains hc, contains_insert_of_ne h.symm, ho]), List.map_append]
    simp [h.symm]

/-! ### Removing a key -/

@[simp] theorem get?_erase_self : (fs.erase key).get? key = none := by
  rw [get?, List.lookup_eq_none_iff]
  intro e he
  have hne : e.1 ≠ key := by simpa [erase] using (List.mem_filter.mp he).2
  simpa using hne.symm

theorem get?_erase_of_ne (h : key ≠ other) : (fs.erase other).get? key = fs.get? key := by
  induction fs with
  | nil => rfl
  | cons e fs ih =>
    rw [get?_cons, ← ih]
    by_cases he : e.1 = other
    · rw [if_neg fun hk => h (hk.symm.trans he)]
      simp [erase, he]
    · simp [erase, he, get?_cons]

@[simp] theorem contains_erase_self : (fs.erase key).contains key = false := by
  simp [contains]

theorem contains_erase_of_ne (h : key ≠ other) : (fs.erase other).contains key = fs.contains key := by
  rw [contains, get?_erase_of_ne h, contains]

theorem erase_eq_self (h : fs.contains key = false) : fs.erase key = fs := by
  rw [erase, List.filter_eq_self]
  intro e he
  have hne : e.1 ≠ key := fun hk => by simp [contains_iff.mpr ⟨e, he, hk⟩] at h
  simpa using hne

theorem insert_erase (h : key ≠ other) : (fs.erase other).insert key v = (fs.insert key v).erase other := by
  cases hc : fs.contains key with
  | true =>
    rw [insert_of_contains hc, insert_of_contains (by rwa [contains_erase_of_ne h]), erase, erase,
      List.filter_map]
    congr 1
    refine List.filter_congr fun e _ => ?_
    by_cases hk : e.1 = key <;> simp [hk]
  | false =>
    rw [insert_of_not_contains hc, insert_of_not_contains (by rwa [contains_erase_of_ne h]), erase,
      erase, List.filter_append]
    simp [h]

theorem keys_erase : (fs.erase key).keys = fs.keys.filter (· ≠ key) := by
  rw [keys, erase, keys, List.filter_map]
  rfl

/-! ### Leaving keys out -/

/-- The entries under other keys than these, in their order. -/
def without (fs : Fields) (keys : List String) : Fields :=
  fs.filter fun e => e.1 ∉ keys

theorem erase_eq_without : fs.erase key = fs.without [key] := by
  simp [erase, without]

/-- A value that is put under a key that is left out makes no difference. -/
theorem without_insert {keys : List String} (h : key ∈ keys) :
    (fs.insert key v).without keys = fs.without keys := by
  cases hc : fs.contains key with
  | true =>
    rw [insert_of_contains hc, without, List.filter_map, without]
    have hsame : (fun e : String × Json => decide (e.1 ∉ keys)) ∘
        (fun e => if e.1 = key then (key, v) else e) = fun e => decide (e.1 ∉ keys) := by
      funext e
      by_cases he : e.1 = key <;> simp [he]
    rw [hsame]
    conv_rhs => rw [← List.map_id (List.filter _ fs)]
    refine List.map_congr_left fun e he => ?_
    have hne : e.1 ≠ key := by
      rintro rfl
      simp [h] at he
    simp [hne]
  | false =>
    rw [insert_of_not_contains hc, without, List.filter_append]
    simp [without, h]

/-- Nor does it that such a key is removed. -/
theorem without_erase {keys : List String} (h : key ∈ keys) :
    (fs.erase key).without keys = fs.without keys := by
  rw [without, erase, List.filter_filter, without]
  refine List.filter_congr fun e _ => ?_
  by_cases he : e.1 = key <;> simp [he, h]

theorem erase_insert_self : (fs.insert key v).erase key = fs.erase key := by
  rw [erase_eq_without, erase_eq_without, without_insert List.mem_cons_self]

/-! ### Putting several values -/

/-- Values under new keys that differ from one another come at the end, as they are listed. -/
theorem foldl_insert_eq_append {es : Fields} (hnodup : es.keys.Nodup)
    (hnew : ∀ e ∈ es, fs.contains e.1 = false) :
    es.foldl (fun fs e => fs.insert e.1 e.2) fs = fs ++ es := by
  induction es generalizing fs with
  | nil => simp
  | cons e es ih =>
    obtain ⟨hfirst, hrest⟩ := List.forall_mem_cons.mp hnew
    rw [keys, List.map_cons, List.nodup_cons] at hnodup
    rw [List.foldl_cons, insert_of_not_contains hfirst, ih hnodup.2]
    · simp
    · intro d hd
      have hne : d.1 ≠ e.1 := fun hk => hnodup.1 (hk ▸ List.mem_map_of_mem hd)
      rw [← insert_of_not_contains hfirst, contains_insert_of_ne hne, hrest d hd]

/-- Entries without a repeated key are taken as they are. -/
theorem ofEntries_of_nodup {es : Fields} (hnodup : es.keys.Nodup) : ofEntries es = es :=
  foldl_insert_eq_append hnodup (by simp [contains, get?])

theorem mem_foldl_insert {es : Fields} {d : String × Json}
    (h : d ∈ es.foldl (fun fs e => fs.insert e.1 e.2) fs) : d ∈ es ∨ d ∈ fs := by
  induction es generalizing fs with
  | nil => exact .inr h
  | cons e es ih =>
    obtain hd | hd := ih h
    · exact .inl (List.mem_cons_of_mem _ hd)
    · obtain rfl | hd := mem_insert hd
      · exact .inl List.mem_cons_self
      · exact .inr hd

theorem mem_of_mem_ofEntries {es : Fields} {d : String × Json} (h : d ∈ ofEntries es) : d ∈ es :=
  (mem_foldl_insert h).resolve_right List.not_mem_nil

/-- Without one of the keys, only the values under the others count. -/
theorem erase_foldl_insert {es : Fields} :
    erase (es.foldl (fun fs e => fs.insert e.1 e.2) fs) key =
      (es.erase key).foldl (fun fs e => fs.insert e.1 e.2) (fs.erase key) := by
  induction es generalizing fs with
  | nil => rfl
  | cons e es ih =>
    rw [List.foldl_cons, ih]
    by_cases hkey : e.1 = key
    · have hskip : erase (e :: es) key = erase es key := by simp [erase, hkey]
      rw [hskip, hkey, erase_insert_self]
    · have hkeep : erase (e :: es) key = e :: erase es key := by simp [erase, hkey]
      rw [hkeep, List.foldl_cons, insert_erase hkey]

/-- Of several values and what was there before, each key has its new value, if it has one. -/
theorem get?_foldl_insert {es : Fields} (hnodup : es.keys.Nodup) :
    get? (es.foldl (fun fs e => fs.insert e.1 e.2) fs) key = (es.get? key).or (fs.get? key) := by
  induction es generalizing fs with
  | nil => rfl
  | cons e es ih =>
    rw [keys, List.map_cons, List.nodup_cons] at hnodup
    rw [List.foldl_cons, ih hnodup.2, get?_cons]
    by_cases hkey : e.1 = key
    · subst hkey
      have hnone : get? es e.1 = none := by
        rw [get?, List.lookup_eq_none_iff]
        intro d hd
        simpa using fun hk : e.1 = d.1 => hnodup.1 (hk ▸ List.mem_map_of_mem hd)
      rw [hnone, get?_insert_self, if_pos rfl, Option.none_or, Option.some_or]
    · rw [get?_insert_of_ne (Ne.symm hkey), if_neg hkey]

/-! ### The first key -/

theorem head?_keys_insert : (fs.insert key v).keys.head? = fs.keys.head?.or (some key) := by
  rw [keys_insert]
  split
  · next hc =>
    obtain ⟨first, rest, hkeys⟩ := List.exists_cons_of_ne_nil (List.ne_nil_of_mem (contains_iff_mem_keys.mp hc))
    rw [hkeys]
    rfl
  · exact List.head?_append

theorem head?_keys_foldl_insert {es : Fields} :
    (keys (es.foldl (fun fs e => fs.insert e.1 e.2) fs)).head? = fs.keys.head?.or es.keys.head? := by
  induction es generalizing fs with
  | nil => simp [keys]
  | cons e es ih =>
    rw [List.foldl_cons, ih, head?_keys_insert, Option.or_assoc]
    rfl

theorem holdsNumber_iff : fs.holdsNumber = true ↔ fs.keys.head? = some numberKey := by
  cases fs <;> simp [holdsNumber, keys]

/-- A repeated key has its place where it is first. -/
theorem holdsNumber_ofEntries (es : Fields) : (ofEntries es).holdsNumber = es.holdsNumber := by
  have hfirst : (ofEntries es).keys.head? = es.keys.head? := head?_keys_foldl_insert
  rw [Bool.eq_iff_iff, holdsNumber_iff, holdsNumber_iff, hfirst]

end ListingCrawl.Fields
