import Mathlib.Data.List.Forall2
import ListingCrawl.Proofs.Json.Fields

/-! Changes to an open map, one key at a time. A rule looks at the value under a key and leaves it, removes
it or puts another in its place. A rule is settled on a map that it does not change; rules for other keys
do not unsettle it. So if each rule of a list settles its counterpart in a second list, running the second
list after the first changes nothing. -/

namespace ListingCrawl

/-- What becomes of the value under a key. -/
inductive Edit where
  | keep
  | drop
  | put (v : Json)

/-- The value after the change. -/
def Edit.value : Edit → Option Json → Option Json
  | keep, o => o
  | drop, _ => none
  | put v, _ => some v

/-- Decides by the value under a key, if there is one. -/
abbrev Rule := Option Json → Edit

namespace Fields

def edit (fs : Fields) (key : String) (rule : Rule) : Fields :=
  match rule (fs.get? key) with
  | .keep => fs
  | .drop => fs.erase key
  | .put v => fs.insert key v

/-- Runs rules in order, each on its key. -/
def edits (fs : Fields) (rules : List (String × Rule)) : Fields :=
  rules.foldl (fun fs r => fs.edit r.1 r.2) fs

/-- The rule changes nothing. -/
def Settled (fs : Fields) (key : String) (rule : Rule) : Prop :=
  fs.edit key rule = fs

variable {fs : Fields} {key other : String} {f g : Rule}

@[simp] theorem edits_nil : fs.edits [] = fs := rfl

@[simp] theorem edits_cons (r : String × Rule) (rules : List (String × Rule)) :
    fs.edits (r :: rules) = (fs.edit r.1 r.2).edits rules := rfl

theorem get?_edit_of_ne (h : key ≠ other) : (fs.edit other f).get? key = fs.get? key := by
  unfold edit
  cases f (fs.get? other) with
  | keep => rfl
  | drop => exact get?_erase_of_ne h
  | put v => exact get?_insert_of_ne h

theorem contains_of_insert_eq_self {v : Json} (h : fs.insert key v = fs) : fs.contains key = true := by
  rw [← h, contains_insert_self]

theorem insert_edit {v : Json} (h : key ≠ other) (hv : fs.insert key v = fs) :
    (fs.edit other f).insert key v = fs.edit other f := by
  unfold edit
  cases f (fs.get? other) with
  | keep => exact hv
  | drop => rw [insert_erase h, hv]
  | put w => rw [insert_comm h (contains_of_insert_eq_self hv), hv]

theorem erase_edit (h : key ≠ other) (he : fs.erase key = fs) :
    (fs.edit other f).erase key = fs.edit other f := by
  refine erase_eq_self ?_
  have habsent : fs.contains key = false := by rw [← he, contains_erase_self]
  rw [contains, get?_edit_of_ne h]
  exact habsent

/-- What a settled rule would put is there. -/
theorem Settled.get?_of_put (hs : fs.Settled key f) {v : Json} (h : f (fs.get? key) = .put v) :
    fs.get? key = some v := by
  unfold Settled at hs
  rw [Fields.edit, h] at hs
  dsimp only at hs
  rw [← hs, get?_insert_self]

/-- What a settled rule would remove is not there. -/
theorem Settled.get?_of_drop (hs : fs.Settled key f) (h : f (fs.get? key) = .drop) :
    fs.get? key = none := by
  unfold Settled at hs
  rw [Fields.edit, h] at hs
  dsimp only at hs
  rw [← hs, get?_erase_self]

/-- What a rule for another key does is no concern of a settled rule. -/
theorem Settled.edit (h : key ≠ other) (hs : fs.Settled key g) : (fs.edit other f).Settled key g := by
  unfold Settled at hs ⊢
  rw [Fields.edit] at hs
  rw [Fields.edit, get?_edit_of_ne h]
  cases hg : g (fs.get? key) with
  | keep => rfl
  | drop => exact erase_edit h (by simpa [hg] using hs)
  | put v => exact insert_edit h (by simpa [hg] using hs)

theorem Settled.edits {rules : List (String × Rule)} (h : key ∉ rules.map (·.1))
    (hs : fs.Settled key g) : (fs.edits rules).Settled key g := by
  induction rules generalizing fs with
  | nil => exact hs
  | cons r rules ih =>
    rw [List.map_cons, List.mem_cons, not_or] at h
    exact ih h.2 (hs.edit h.1)

/-- Rules leave alone what is under a key that none of them is for. -/
theorem get?_edits_of_not_mem {rules : List (String × Rule)} (h : key ∉ rules.map (·.1)) :
    (fs.edits rules).get? key = fs.get? key := by
  induction rules generalizing fs with
  | nil => rfl
  | cons r rules ih =>
    rw [List.map_cons, List.mem_cons, not_or] at h
    rw [edits_cons, ih h.2, get?_edit_of_ne h.1]

/-- What becomes of the value is what is then under the key. -/
theorem get?_edit_self : (fs.edit key f).get? key = (f (fs.get? key)).value (fs.get? key) := by
  unfold edit
  cases f (fs.get? key) with
  | keep => rfl
  | drop => exact get?_erase_self
  | put v => exact get?_insert_self

/-- Of rules for distinct keys each decides what is under its own. -/
theorem get?_edits_of_mem {rules : List (String × Rule)} (h : (key, f) ∈ rules)
    (hkeys : (rules.map (·.1)).Nodup) :
    (fs.edits rules).get? key = (f (fs.get? key)).value (fs.get? key) := by
  induction rules generalizing fs with
  | nil => cases h
  | cons r rules ih =>
    rw [List.map_cons, List.nodup_cons] at hkeys
    rw [edits_cons]
    obtain rfl | h := List.mem_cons.mp h
    · rw [get?_edits_of_not_mem hkeys.1, get?_edit_self]
    · have hne : key ≠ r.1 := fun heq => hkeys.1 (heq ▸ List.mem_map_of_mem h)
      rw [ih h hkeys.2, get?_edit_of_ne hne]

theorem nodup_keys_edit (h : fs.keys.Nodup) : (fs.edit key f).keys.Nodup := by
  unfold edit
  cases f (fs.get? key) with
  | keep => exact h
  | drop => exact h.sublist (List.filter_sublist.map _)
  | put v => exact nodup_keys_insert h

theorem nodup_keys_edits {rules : List (String × Rule)} (h : fs.keys.Nodup) :
    (fs.edits rules).keys.Nodup := by
  induction rules generalizing fs with
  | nil => exact h
  | cons r rules ih => exact ih (nodup_keys_edit h)

/-! ### What stays -/

/-- A rule has nothing to do with the entries under other keys. -/
theorem without_edit {keys : List String} (h : key ∈ keys) :
    (fs.edit key f).without keys = fs.without keys := by
  unfold edit
  cases f (fs.get? key) with
  | keep => rfl
  | drop => exact without_erase h
  | put v => exact without_insert h

theorem without_edits {keys : List String} {rules : List (String × Rule)}
    (h : ∀ r ∈ rules, r.1 ∈ keys) : (fs.edits rules).without keys = fs.without keys := by
  induction rules generalizing fs with
  | nil => rfl
  | cons r rules ih =>
    obtain ⟨hr, hrules⟩ := List.forall_mem_cons.mp h
    rw [edits_cons, ih hrules, without_edit hr]

theorem contains_edit_of_ne (h : key ≠ other) : (fs.edit other f).contains key = fs.contains key := by
  rw [contains, get?_edit_of_ne h, contains]

/-- The keys that are left keep their places, and a new key comes at the end. -/
theorem keys_edit : (fs.edit key f).keys = fs.keys.filter (fs.edit key f).contains ++
    [key].filter fun k => !fs.contains k && (fs.edit key f).contains k := by
  have hothers : ∀ k ∈ fs.keys, k ≠ key → (fs.edit key f).contains k = true := fun k hk hne => by
    rw [contains_edit_of_ne hne, contains_iff_mem_keys.mpr hk]
  revert hothers
  unfold edit
  cases f (fs.get? key) with
  | keep =>
    intro
    simp [filter_contains_keys]
  | drop =>
    intro hothers
    dsimp only at hothers ⊢
    rw [List.filter_singleton, contains_erase_self, Bool.and_false, cond_false, List.append_nil, keys_erase]
    refine List.filter_congr fun k hk => ?_
    by_cases hkey : k = key
    · rw [hkey, contains_erase_self]
      simp
    · rw [hothers k hk hkey]
      simpa using hkey
  | put v =>
    intro hothers
    dsimp only at hothers ⊢
    have hall : fs.keys.filter (fs.insert key v).contains = fs.keys := by
      refine List.filter_eq_self.mpr fun k hk => ?_
      by_cases hkey : k = key
      · rw [hkey, contains_insert_self]
      · exact hothers k hk hkey
    rw [hall, keys_insert, List.filter_singleton, contains_insert_self, Bool.and_true]
    cases fs.contains key <;> simp

/-- After rules for distinct keys, the keys that are left keep their places, and new ones come at the end in
the order of the rules. -/
theorem keys_edits {rules : List (String × Rule)} (hkeys : (rules.map (·.1)).Nodup) :
    (fs.edits rules).keys = fs.keys.filter (fs.edits rules).contains ++
      (rules.map (·.1)).filter fun k => !fs.contains k && (fs.edits rules).contains k := by
  induction rules generalizing fs with
  | nil => simp [filter_contains_keys]
  | cons r rules ih =>
    rw [List.map_cons, List.nodup_cons] at hkeys
    -- what the first rule has decided about its key stays
    have hfirst : ((fs.edit r.1 r.2).edits rules).contains r.1 = (fs.edit r.1 r.2).contains r.1 := by
      rw [contains, get?_edits_of_not_mem hkeys.1, contains]
    have hothers : ∀ k ≠ r.1, (fs.edit r.1 r.2).contains k = fs.contains k :=
      fun k hk => contains_edit_of_ne hk
    have hcons : (r :: rules).map (·.1) = [r.1] ++ rules.map (·.1) := rfl
    rw [edits_cons, ih hkeys.2, keys_edit, hcons, List.filter_append, List.filter_append,
      List.filter_filter, List.filter_filter, List.append_assoc]
    generalize ((fs.edit r.1 r.2).edits rules).contains = left at hfirst ⊢
    congr 1
    · refine List.filter_congr fun k hk => ?_
      by_cases hkey : k = r.1
      · rw [hkey, hfirst, Bool.and_self]
      · rw [hothers k hkey, contains_iff_mem_keys.mpr hk, Bool.and_true]
    · congr 1
      · refine List.filter_congr fun k hk => ?_
        rw [List.mem_singleton.mp hk, hfirst]
        cases (fs.edit r.1 r.2).contains r.1 <;> simp
      · refine List.filter_congr fun k hk => ?_
        have hkey : k ≠ r.1 := fun heq => hkeys.1 (heq ▸ hk)
        rw [hothers k hkey]

theorem edits_eq_self {rules : List (String × Rule)} (h : ∀ r ∈ rules, fs.Settled r.1 r.2) :
    fs.edits rules = fs := by
  induction rules with
  | nil => rfl
  | cons r rules ih =>
    have hfirst : fs.edit r.1 r.2 = fs := h r List.mem_cons_self
    rw [edits_cons, hfirst]
    exact ih fun s hs => h s (List.mem_cons_of_mem r hs)

end Fields

namespace Rule

/-- The second rule accepts whatever the first leaves behind. -/
def Settles (f g : Rule) : Prop :=
  ∀ o, match f o with
    | .keep => g o = .keep
    | .drop => g none = .keep ∨ g none = .drop
    | .put v => g (some v) = .keep ∨ g (some v) = .put v

theorem settled_edit {f g : Rule} (h : f.Settles g) (fs : Fields) (key : String) :
    (fs.edit key f).Settled key g := by
  have hstep := h (fs.get? key)
  unfold Fields.Settled
  rw [Fields.edit, Fields.edit]
  cases hf : f (fs.get? key) with
  | keep =>
    rw [hf] at hstep
    simp [hstep]
  | drop =>
    rw [hf] at hstep
    rcases hstep with hg | hg <;> simp [hg, Fields.erase_eq_self]
  | put v =>
    rw [hf] at hstep
    rcases hstep with hg | hg <;> simp [hg, Fields.insert_insert_self]

/-- Rules for distinct keys leave every rule settled that they settle one by one. -/
theorem settled_edits {rules rules' : List (String × Rule)}
    (h : List.Forall₂ (fun r r' => r'.1 = r.1 ∧ Settles r.2 r'.2) rules rules')
    (hkeys : (rules.map (·.1)).Nodup) (fs : Fields) :
    ∀ r' ∈ rules', (fs.edits rules).Settled r'.1 r'.2 := by
  induction h generalizing fs with
  | nil => simp
  | @cons r r' rules rules' hr _ ih =>
    rw [List.map_cons, List.nodup_cons] at hkeys
    intro s hs
    rcases List.mem_cons.mp hs with rfl | hs
    · rw [Fields.edits_cons, hr.1]
      exact (settled_edit hr.2 fs r.1).edits hkeys.1
    · exact ih hkeys.2 (fs.edit r.1 r.2) s hs

end Rule

end ListingCrawl
