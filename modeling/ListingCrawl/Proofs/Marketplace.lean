import ListingCrawl.Marketplace

/-! Which hosts belong to a marketplace. A host is matched as a text, but what counts are its labels: the ends of
the text at dots are the ends of the list of labels, empty labels among them. The domains have the same number
of labels, so no host belongs to two marketplaces, and none of their names ends with that of another, so that a
domain's name behind anything but a dot belongs to none. -/

namespace ListingCrawl.Marketplace

/-! ### Ends of a text at dots -/

variable {dotted host : List Char}

theorem intercalate_append {before after : List (List Char)} (hbefore : before ≠ []) (hafter : after ≠ []) :
    List.intercalate ['.'] (before ++ after) =
      List.intercalate ['.'] before ++ '.' :: List.intercalate ['.'] after := by
  induction before with
  | nil => exact absurd rfl hbefore
  | cons l before ih =>
    rw [List.cons_append, List.intercalate_cons_of_ne_nil (by simp [hafter])]
    cases before with
    | nil => simp
    | cons m before => rw [ih (by simp), List.intercalate_cons_cons]; simp

/-- The pieces of one text between dots end with those of another if the text does so behind a dot, or is the
other. -/
theorem splitOn_suffix_iff :
    dotted.splitOn '.' <:+ host.splitOn '.' ↔ dotted = host ∨ '.' :: dotted <:+ host := by
  constructor
  · rintro ⟨front, hfront⟩
    have hhost := congrArg (List.intercalate ['.']) hfront
    rw [List.intercalate_splitOn] at hhost
    cases front with
    | nil =>
      left
      rwa [List.nil_append, List.intercalate_splitOn] at hhost
    | cons l front =>
      right
      rw [intercalate_append (by simp) (List.splitOn_ne_nil _ _), List.intercalate_splitOn] at hhost
      exact ⟨_, hhost⟩
  · rintro (rfl | ⟨front, rfl⟩)
    · exact List.suffix_rfl
    · rw [List.splitOn_append_cons_self]
      exact List.suffix_append _ _

/-! ### Labels -/

/-- The parts of a host between its dots, which may be empty. -/
def labels (host : String) : List String :=
  (host.toList.splitOn '.').map String.ofList

/-- The domains of a marketplace by their labels. -/
def domains : Marketplace → List (List String)
  | shopee => [["shopee", "tw"]]
  | taobao => [["taobao", "com"], ["tmall", "com"]]

/-- The labels of the host end with those of a domain of the marketplace. -/
def Owns (m : Marketplace) (host : String) : Prop :=
  ∃ d ∈ m.domains, d <:+ labels host

variable {m m' : Marketplace} {d d' : List String} {name : String}

theorem hostMatches_iff (name domain : String) :
    hostMatches name domain = true ↔ labels domain <:+ labels name := by
  have hinj : Function.Injective String.ofList := fun _ _ => String.ofList_inj.mp
  rw [labels, labels, List.suffix_map_iff_of_injective hinj, splitOn_suffix_iff, hostMatches, Bool.or_eq_true,
    beq_iff_eq, List.isSuffixOf_iff_suffix, ← String.toList_inj, eq_comm]

/-! ### Domains -/

theorem length_of_mem_domains (hd : d ∈ m.domains) : d.length = 2 := by
  cases m <;> revert d <;> decide

theorem eq_of_mem_domains (hd : d ∈ m.domains) (hd' : d ∈ m'.domains) : m = m' := by
  cases m <;> cases m' <;> revert d <;> decide

theorem labels_intercalate (hd : d ∈ m.domains) : labels (".".intercalate d) = d := by
  cases m <;> revert d <;> decide

/-- The name of a domain does not end with that of another. -/
theorem eq_of_suffix (hd : d ∈ m.domains) (hd' : d' ∈ m'.domains)
    (h : (".".intercalate d).toList <:+ (".".intercalate d').toList) : d = d' := by
  have hnames : ∀ d ∈ m.domains, ∀ d' ∈ m'.domains,
      (".".intercalate d).toList <:+ (".".intercalate d').toList → d = d' := by
    cases m <;> cases m' <;> decide
  exact hnames d hd d' hd' h

theorem owns_iff : m.Owns name ↔ ∃ d ∈ m.domains, hostMatches name (".".intercalate d) = true := by
  refine exists_congr fun d => and_congr_right fun hd => ?_
  rw [hostMatches_iff, labels_intercalate hd]

/-- No host belongs to two marketplaces. -/
theorem Owns.unique (h : m.Owns name) (h' : m'.Owns name) : m = m' := by
  obtain ⟨d, hd, hsuffix⟩ := h
  obtain ⟨d', hd', hsuffix'⟩ := h'
  have hlength : d.length = d'.length := by rw [length_of_mem_domains hd, length_of_mem_domains hd']
  have hsame : d = d' := (List.suffix_of_suffix_length_le hsuffix hsuffix'
    (Nat.le_of_eq hlength)).eq_of_length hlength
  exact eq_of_mem_domains hd (hsame ▸ hd')

/-- The name of a domain behind anything but a dot is that of a host that belongs to nobody. -/
theorem not_owns_of_suffix {c : Char} (hd : d ∈ m.domains) (hc : c ≠ '.')
    (hname : c :: (".".intercalate d).toList <:+ name.toList) : ¬m'.Owns name := by
  intro howns
  obtain ⟨d', hd', hmatch⟩ := owns_iff.mp howns
  rw [hostMatches, Bool.or_eq_true, beq_iff_eq, List.isSuffixOf_iff_suffix] at hmatch
  have hend : (".".intercalate d').toList <:+ name.toList := by
    obtain rfl | hdot := hmatch
    · exact List.suffix_rfl
    · exact (List.suffix_cons _ _).trans hdot
  -- of two ends of a text the shorter is an end of the longer, and here this makes the domains the same
  obtain rfl : d = d' := by
    obtain h | h := List.suffix_or_suffix_of_suffix hname hend
    · exact eq_of_suffix hd hd' ((List.suffix_cons _ _).trans h)
    · obtain h | h := List.suffix_cons_iff.mp h
      · exact eq_of_suffix hd hd' (h ▸ List.suffix_cons _ _)
      · exact (eq_of_suffix hd' hd h).symm
  obtain rfl | hdot := hmatch
  · have hlength := hname.length_le
    rw [List.length_cons] at hlength
    omega
  · have hsame := (List.suffix_of_suffix_length_le hname hdot (by simp)).eq_of_length (by simp)
    exact hc (List.cons.inj hsame).1

theorem ofHost?_eq_some_iff : ofHost? name = some m ↔ m.Owns name := by
  have hshopee : shopee.Owns name ↔ hostMatches name "shopee.tw" = true := by
    simp only [owns_iff, domains, List.mem_singleton, exists_eq_left]
    rfl
  have htaobao : taobao.Owns name ↔ (hostMatches name "taobao.com" || hostMatches name "tmall.com") = true := by
    simp only [owns_iff, domains, List.mem_cons, List.not_mem_nil, or_false, or_and_right, exists_or,
      exists_eq_left, Bool.or_eq_true]
    rfl
  unfold ofHost?
  split
  · next hmatch =>
    have howns := hshopee.mpr hmatch
    exact ⟨fun h => Option.some.inj h ▸ howns, fun h => congrArg some (howns.unique h)⟩
  · next hshop =>
    split
    · next hmatch =>
      have howns := htaobao.mpr hmatch
      exact ⟨fun h => Option.some.inj h ▸ howns, fun h => congrArg some (howns.unique h)⟩
    · next htao =>
      refine ⟨nofun, fun h => ?_⟩
      cases m with
      | shopee => exact absurd (hshopee.mp h) hshop
      | taobao => exact absurd (htaobao.mp h) htao

/-- A dot at the end of a host is one label more, which no domain has. -/
example : labels "shopee.tw." = ["shopee", "tw", ""] ∧ ofHost? "shopee.tw." = none := by
  decide

/-! ### Pages -/

/-- A page belongs to the marketplace that owns its host, and there is at most one. A text that is no URL, a URL
without a host, and a host that nobody owns are errors; nobody owns a host that merely ends with the name of a
domain, without a dot before it. -/
theorem ofUrl_fails_closed (raw : String) :
    (∀ e, Url.parse (Text.trim raw) = .error e → ofUrl raw = .error (.badUrl raw e)) ∧
      ∀ url, Url.parse (Text.trim raw) = .ok url →
        (url.host? = none → ofUrl raw = .error (.noHost raw)) ∧
        ∀ host, url.host? = some host →
          (∀ m, ofUrl raw = .ok m ↔ Owns m (Text.asciiLower host)) ∧
          (∀ m m' : Marketplace, m.Owns (Text.asciiLower host) → m'.Owns (Text.asciiLower host) → m = m') ∧
          ((∀ m : Marketplace, ¬m.Owns (Text.asciiLower host)) →
            ofUrl raw = .error (.otherHost (Text.asciiLower host))) ∧
          ∀ m : Marketplace, ∀ d ∈ m.domains, ∀ front c, c ≠ '.' →
            (Text.asciiLower host).toList = front ++ c :: (".".intercalate d).toList →
              ofUrl raw = .error (.otherHost (Text.asciiLower host)) := by
  refine ⟨fun e he => by simp only [ofUrl, he], fun url hurl => ?_⟩
  refine ⟨fun hnone => by simp only [ofUrl, hurl, hnone], fun host hhost => ?_⟩
  have hother : (∀ m : Marketplace, ¬m.Owns (Text.asciiLower host)) →
      ofUrl raw = .error (.otherHost (Text.asciiLower host)) := by
    intro hnobody
    cases hfound : ofHost? (Text.asciiLower host) with
    | none => simp only [ofUrl, hurl, hhost, hfound]
    | some m => exact absurd (ofHost?_eq_some_iff.mp hfound) (hnobody m)
  refine ⟨fun m => ?_, fun m m' => Owns.unique, hother, fun m d hd front c hc hname => ?_⟩
  · rw [← ofHost?_eq_some_iff]
    cases hfound : ofHost? (Text.asciiLower host) <;> simp [ofUrl, hurl, hhost, hfound]
  · exact hother fun m' => not_owns_of_suffix hd hc (hname ▸ List.suffix_append _ _)

end ListingCrawl.Marketplace
