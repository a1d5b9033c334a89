import ListingCrawl.Proofs.Answer.Order

/-! The two usual presentations of an object: between prose, and in a fenced block. In prose without braces
before it the object is the first candidate, whatever follows it. In a fenced block only white space goes
before it, and the block is searched before the rest of the answer. Backticks at the end of what stands before
a fence may be taken for a part of the fence, but then the same line still opens the block, and the block
loses none but backticks. -/

namespace ListingCrawl.Answer

open Octets Text

variable {o : String} {fields : Fields}

/-! ### Behind text without braces -/

/-- Behind text without braces an object is found, whatever follows it. -/
theorem scanObjects_behind {accept : Fields → Bool} (h : Json.IsObjectText o fields)
    (ha : accept fields = true) {before : List Char} (hbefore : '{' ∉ before) (post : List Char) :
    scanObjects accept (before ++ o.toList ++ post) = some fields := by
  obtain ⟨cs, hcs⟩ := h.eq_cons
  rw [hcs, List.append_assoc, List.cons_append]
  exact scanObjects_inPhase (inPhase_of_not_mem hbefore) (passes_of_not_mem hbefore accept true _)
    (acceptedAt?_objectText h ha hcs post)

theorem findObject?_behind {accept : Fields → Bool} (h : Json.IsObjectText o fields)
    (ha : accept fields = true) {pre post : String} (hpre : '{' ∉ pre.toList)
    (hfence : ¬fence <:+: (pre ++ o ++ post).toList) :
    findObject? accept (pre ++ o ++ post) = some fields := by
  have hblank : '{' ∉ pre.toList.dropWhile isBlank :=
    fun hmem => hpre ((List.dropWhile_suffix isBlank).subset hmem)
  rw [findObject?_unfenced hfence, String.toList_append, String.toList_append,
    trimChars_objectText h, scanObjects_behind h ha hblank]

/-! ### In a fenced block -/

/-- The block behind an opening line, up to the next fence. It may lose backticks at its end. -/
theorem fenceBody?_eq {pre line body : List Char} (hpre : ¬fence <:+: pre) (hline : '\n' ∉ line)
    (hbody : ¬fence <:+: body) (post : List Char) : ∃ front lost, body = front ++ lost ∧
      lost <+: fence ∧
      fenceBody? (pre ++ fence ++ (line ++ ['\n'] ++ (body ++ fence ++ post))) = some front := by
  obtain ⟨front₁, lost₁, more, -, hover, hlength, hopen⟩ :=
    cutAt?_append hpre (line ++ ['\n'] ++ (body ++ fence ++ post))
  obtain ⟨front, lost₂, tail, hfront, hover₂, hlength₂, hclose⟩ := cutAt?_append hbody post
  have hnewline : '\n' ∉ more ++ line := by
    rw [List.mem_append, not_or]
    refine ⟨fun hmem => ?_, hline⟩
    have hfence := (part_of_overlap hover hlength).2.subset hmem
    revert hfence
    decide
  have hcut := cutAt?_singleton hnewline (body ++ fence ++ post)
  rw [List.append_assoc more, List.append_assoc more] at hcut
  refine ⟨front, lost₂, hfront, (part_of_overlap hover₂ hlength₂).1, ?_⟩
  simp only [fenceBody?, hopen, hcut, hclose, bind, Option.bind, pure]

/-- An object that only white space goes before in a block is found in what the fences leave of it. -/
theorem scanObjects_block {accept : Fields → Bool} (h : Json.IsObjectText o fields)
    (ha : accept fields = true) {blanks further front lost : List Char}
    (hblanks : ∀ c ∈ blanks, isBlank c = true) (hsplit : blanks ++ o.toList ++ further = front ++ lost)
    (hlost : lost <+: fence) : scanObjects accept front = some fields := by
  have hbefore := openBrace_not_mem_blanks hblanks
  obtain ⟨kept, rfl, -⟩ | ⟨cut, hcut, rfl⟩ := List.append_eq_append_iff.mp hsplit
  · exact scanObjects_behind h ha hbefore kept
  · -- the last character of the object would be a backtick
    obtain rfl : cut = [] := by
      by_contra hne
      obtain ⟨cs, hcs⟩ := h.eq_enclosed
      have hlast : cut.getLast hne = '}' := by
        have := congrArg List.getLast? hcut
        rw [hcs, ← List.cons_append, ← List.append_assoc, List.getLast?_concat,
          List.getLast?_append_of_ne_nil _ hne, List.getLast?_eq_some_getLast hne] at this
        exact (Option.some.inj this).symm
      have hmem : '}' ∈ fence :=
        hlost.subset (List.mem_append_left further (hlast ▸ List.getLast_mem hne))
      revert hmem
      decide
    rw [List.append_nil] at hcut
    have hfound := scanObjects_behind h ha hbefore []
    rwa [List.append_nil, hcut] at hfound

theorem findObject?_fenced {accept : Fields → Bool} (h : Json.IsObjectText o fields)
    (ha : accept fields = true) {pre line blanks further post : String}
    (hpre : ¬fence <:+: pre.toList) (hline : '\n' ∉ line.toList) (hblanks : isBlankText blanks = true)
    (hbody : ¬fence <:+: (blanks ++ o ++ further).toList) :
    findObject? accept (pre ++ "```" ++ line ++ "\n" ++ (blanks ++ o ++ further) ++ "```" ++ post) =
      some fields := by
  have hraw : (pre ++ "```" ++ line ++ "\n" ++ (blanks ++ o ++ further) ++ "```" ++ post).toList =
      pre.toList ++ (fence ++ (line.toList ++ ['\n'] ++ (blanks ++ o ++ further).toList) ++ fence) ++
        post.toList := by
    simp [String.toList_append, fence]
  have hends : NoBlankEnds
      (fence ++ (line.toList ++ ['\n'] ++ (blanks ++ o ++ further).toList) ++ fence) := by
    constructor
    · intro c hc
      obtain rfl := Option.mem_some_iff.mp hc
      decide
    · intro c hc
      rw [List.getLast?_append_of_ne_nil _ (by decide)] at hc
      obtain rfl := Option.mem_some_iff.mp hc
      decide
  have hpre' : ¬fence <:+: pre.toList.dropWhile isBlank :=
    fun hi => hpre (hi.trans (List.dropWhile_suffix isBlank).isInfix)
  obtain ⟨front, lost, hfront, hlost, hfence⟩ :=
    fenceBody?_eq hpre' hline hbody (post.toList.rdropWhile isBlank)
  rw [String.toList_append, String.toList_append] at hfront
  have hfound := scanObjects_block h ha (isBlankText_iff.mp hblanks) hfront hlost
  rw [findObject?_eq, hraw, trimChars_append (by simp [fence]) hends]
  simp only [List.append_assoc] at hfence ⊢
  rw [hfence, Option.bind_some, hfound, Option.some_or]

/-! ### Both presentations -/

/-- An object comes back unchanged from prose without braces before it and without fences, and from a fenced
block that it begins, whatever stands around the block. -/
theorem presented_object_found (h : Json.IsObjectText o fields) :
    (∀ pre post : String, '{' ∉ pre.toList → ¬fence <:+: (pre ++ o ++ post).toList →
      firstObject (pre ++ o ++ post) = .ok fields ∧
      (HasStatus fields → statusObject (pre ++ o ++ post) = .ok fields)) ∧
    ∀ pre line blanks further post : String, ¬fence <:+: pre.toList → '\n' ∉ line.toList →
      isBlankText blanks = true → ¬fence <:+: (blanks ++ o ++ further).toList →
      firstObject (pre ++ "```" ++ line ++ "\n" ++ (blanks ++ o ++ further) ++ "```" ++ post) =
        .ok fields ∧
      (HasStatus fields →
        statusObject (pre ++ "```" ++ line ++ "\n" ++ (blanks ++ o ++ further) ++ "```" ++ post) =
          .ok fields) := by
  simp only [firstObject_eq_ok, statusObject_eq_ok, ← hasStatus_iff]
  constructor
  · intro pre post hpre hfence
    exact ⟨findObject?_behind h rfl hpre hfence, fun hs => findObject?_behind h hs hpre hfence⟩
  · intro pre line blanks further post hpre hline hblanks hbody
    exact ⟨findObject?_fenced h rfl hpre hline hblanks hbody,
      fun hs => findObject?_fenced h hs hpre hline hblanks hbody⟩

/-- An object with a brace in its status. -/
def bracedStatus : String :=
  "\x7b\"status\":\"\x7bok\"\x7d"

/-- Behind a lone quote and before another object, and in a block whose fences have a fourth backtick each, with
an object before it. -/
theorem presented_object_found_braced :
    Json.IsObjectText bracedStatus [("status", .string "\x7bok")] ∧
    statusObject ("It's 12\": " ++ bracedStatus ++ " \x7b\"status\":\"late\"\x7d") =
      .ok [("status", .string "\x7bok")] ∧
    statusObject ("\x7b\"status\":\"early\"\x7d `" ++ "```" ++ "json" ++ "\n" ++
      ("\u3000" ++ bracedStatus ++ "`") ++ "```" ++ " \x7b\"status\":\"late\"\x7d") =
      .ok [("status", .string "\x7bok")] := by
  have hobject : Json.IsObjectText bracedStatus [("status", .string "\x7bok")] :=
    ⟨rfl, by decide +kernel⟩
  have hstatus : HasStatus [("status", .string "\x7bok")] := ⟨"\x7bok", rfl, by decide +kernel⟩
  obtain ⟨hprose, hblock⟩ := presented_object_found hobject
  exact ⟨hobject, (hprose _ _ (by decide +kernel) (by decide +kernel)).2 hstatus,
    (hblock _ _ _ _ _ (by decide +kernel) (by decide +kernel) (by decide +kernel)
      (by decide +kernel)).2 hstatus⟩

end ListingCrawl.Answer
