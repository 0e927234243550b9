import JsonShell.Text.Split

/-!
# Texts are cut where they were joined

Pieces without the separator are read back when they were joined with it (`splitString_join`), and
no piece has the separator in it (`of_mem_splitOn`).

A text is cut at a pattern where that occurs first.  What this means is said without any scanning
(`CutsFirst`): the pattern stands there, and nowhere does it begin earlier.  There is one such cut
if the pattern occurs at all, and it is the one that is found (`splitFirst_eq_some_iff`).
-/

set_option autoImplicit false

namespace JsonShell.Text

variable {sep c : Char} {cs piece pattern before after : List Char}

/-! ## Pieces between separators -/

/-- The first separator ends the first piece. -/
theorem splitOn_append (h : sep ∉ cs) (rest : List Char) :
    splitOn sep (cs ++ sep :: rest) = cs :: splitOn sep rest := by
  induction cs with
  | nil => exact if_pos rfl
  | cons c cs ih =>
    have hne : c ≠ sep := (List.ne_of_not_mem_cons h).symm
    rw [List.cons_append, splitOn, if_neg hne, ih (List.not_mem_of_not_mem_cons h), consFirst]

/-- What holds of pieces with and without the character holds of them with it in front of the first
one. -/
theorem of_mem_consFirst {pieces : List (List Char)} {p : List Char → Prop}
    (h : piece ∈ consFirst c pieces) (hpieces : ∀ q ∈ pieces, p q ∧ p (c :: q))
    (hsingle : p [c]) : p piece := by
  cases pieces with
  | nil => rwa [List.mem_singleton.1 h]
  | cons first rest =>
    obtain ⟨hfirst, hrest⟩ := List.forall_mem_cons.1 hpieces
    rcases List.mem_cons.1 h with rfl | h
    · exact hfirst.2
    · exact (hrest piece h).1

/-- A piece has no separator in it, and no characters but those of the text. -/
theorem of_mem_splitOn (h : piece ∈ splitOn sep cs) : sep ∉ piece ∧ piece ⊆ cs := by
  induction cs generalizing piece with
  | nil => simp [List.mem_singleton.1 h]
  | cons c rest ih =>
    rw [splitOn] at h
    split at h
    · rcases List.mem_cons.1 h with rfl | h
      · exact ⟨List.not_mem_nil, List.nil_subset _⟩
      · exact ⟨(ih h).1, List.subset_cons_of_subset c (ih h).2⟩
    · rename_i hne
      refine of_mem_consFirst (p := fun q => sep ∉ q ∧ q ⊆ c :: rest) h
        (fun q hq => ⟨⟨(ih hq).1, ?_⟩, ?_, ?_⟩) ⟨?_, ?_⟩
      · exact List.subset_cons_of_subset c (ih hq).2
      · exact List.not_mem_cons_of_ne_of_not_mem (Ne.symm hne) (ih hq).1
      · exact List.cons_subset_cons c (ih hq).2
      · simpa using Ne.symm hne
      · simp

/-- A separator is a cut, wherever it stands. -/
theorem splitOn_append_cons (cs ds : List Char) :
    splitOn sep (cs ++ sep :: ds) = splitOn sep cs ++ splitOn sep ds := by
  induction cs with
  | nil => exact if_pos rfl
  | cons c cs ih =>
    rw [List.cons_append, splitOn, splitOn, ih]
    split
    · rfl
    · obtain ⟨piece, pieces, hpieces⟩ := List.exists_cons_of_ne_nil (splitOn_ne_nil sep cs)
      rw [hpieces, List.cons_append, consFirst, consFirst, List.cons_append]

theorem splitOn_of_not_mem (h : sep ∉ cs) : splitOn sep cs = [cs] := by
  induction cs with
  | nil => rfl
  | cons c cs ih =>
    have hne : c ≠ sep := (List.ne_of_not_mem_cons h).symm
    rw [splitOn, if_neg hne, ih (List.not_mem_of_not_mem_cons h), consFirst]

theorem splitOn_append_flatMap {pieces : List (List Char)} (hcs : sep ∉ cs)
    (h : ∀ p ∈ pieces, sep ∉ p) :
    splitOn sep (cs ++ pieces.flatMap fun p => sep :: p) = cs :: pieces := by
  induction pieces generalizing cs with
  | nil => rw [List.flatMap_nil, List.append_nil, splitOn_of_not_mem hcs]
  | cons p pieces ih =>
    obtain ⟨hp, h⟩ := List.forall_mem_cons.1 h
    rw [List.flatMap_cons, List.cons_append, splitOn_append hcs, ih hp h]

/-- **Pieces that were joined are read back.** -/
theorem splitString_join {pieces : List String} (hne : pieces ≠ [])
    (h : ∀ p ∈ pieces, sep ∉ p.toList) :
    splitString sep (join (String.singleton sep) pieces) = pieces := by
  obtain ⟨first, rest, rfl⟩ := List.exists_cons_of_ne_nil hne
  obtain ⟨hfirst, hrest⟩ := List.forall_mem_cons.1 h
  have hchars : ∀ p ∈ rest.map String.toList, sep ∉ p := List.forall_mem_map.2 hrest
  have hsplit := splitOn_append_flatMap hfirst hchars
  rw [List.flatMap_map] at hsplit
  rw [splitString, toList_join_cons, String.toList_singleton]
  show (splitOn sep (first.toList ++ rest.flatMap fun p => sep :: p.toList)).map String.ofList = _
  rw [hsplit]
  simp

/-! ## The first occurrence of a pattern -/

/-- A text is cut at a pattern whose first character does not occur before it. -/
theorem splitFirst_append {c : Char} {pattern before : List Char} (hc : c ∉ before)
    (after : List Char) :
    splitFirst (c :: pattern) (before ++ (c :: pattern) ++ after) = some (before, after) := by
  induction before with
  | nil =>
    have hprefix : (c :: pattern).isPrefixOf (c :: pattern ++ after) = true := by simp
    show splitFirst (c :: pattern) (c :: (pattern ++ after)) = _
    rw [splitFirst, ← List.cons_append, if_pos hprefix, List.drop_left]
  | cons b before ih =>
    have hne : c ≠ b := List.ne_of_not_mem_cons hc
    have hprefix :
        ¬(c :: pattern).isPrefixOf (b :: (before ++ (c :: pattern) ++ after)) = true := by
      simp [hne]
    show splitFirst (c :: pattern) (b :: (before ++ (c :: pattern) ++ after)) = _
    rw [splitFirst, if_neg hprefix, ih (List.not_mem_of_not_mem_cons hc)]
    rfl

/-- The pattern stands between the two texts, and it begins nowhere earlier. -/
structure CutsFirst (pattern cs before after : List Char) : Prop where
  eq : cs = before ++ pattern ++ after
  least : ∀ before' after', cs = before' ++ pattern ++ after' → before.length ≤ before'.length

/-- There is only one place where the pattern occurs first. -/
theorem CutsFirst.unique {before' after' : List Char} (h : CutsFirst pattern cs before after)
    (h' : CutsFirst pattern cs before' after') : before = before' ∧ after = after' := by
  have hlength : before.length = before'.length :=
    Nat.le_antisymm (h.least _ _ h'.eq) (h'.least _ _ h.eq)
  have heq : before ++ (pattern ++ after) = before' ++ (pattern ++ after') := by
    rw [← List.append_assoc, ← List.append_assoc, ← h.eq, h'.eq]
  obtain ⟨hbefore, hafter⟩ := List.append_inj heq hlength
  exact ⟨hbefore, List.append_cancel_left hafter⟩

theorem cutsFirst_of_splitFirst (hne : pattern ≠ [])
    (h : splitFirst pattern cs = some (before, after)) : CutsFirst pattern cs before after := by
  induction cs generalizing before with
  | nil => simp [splitFirst, hne] at h
  | cons c rest ih =>
    rw [splitFirst] at h
    split at h
    · rename_i hprefix
      obtain ⟨tail, htail⟩ := List.isPrefixOf_iff_prefix.1 hprefix
      obtain ⟨rfl, rfl⟩ := Prod.mk.inj (Option.some.inj h)
      refine ⟨?_, fun before' after' _ => Nat.zero_le _⟩
      rw [← htail, List.drop_left, List.nil_append]
    · rename_i hprefix
      obtain ⟨⟨before', after'⟩, hrest, heq⟩ := Option.map_eq_some_iff.1 h
      obtain ⟨rfl, rfl⟩ := Prod.mk.inj heq
      have hcut := ih hrest
      refine ⟨by rw [hcut.eq]; rfl, ?_⟩
      intro earlier later hearlier
      rcases earlier with _ | ⟨d, earlier⟩
      · exact absurd (List.isPrefixOf_iff_prefix.2 ⟨later, hearlier.symm⟩) hprefix
      · have htail : rest = earlier ++ pattern ++ later := (List.cons.inj hearlier).2
        exact Nat.succ_le_succ (hcut.least _ _ htail)

/-- A pattern that occurs is found. -/
theorem isSome_splitFirst (h : pattern <:+: cs) : (splitFirst pattern cs).isSome = true := by
  induction cs with
  | nil => simp [List.infix_nil.1 h, splitFirst]
  | cons c rest ih =>
    rw [splitFirst]
    split
    · rfl
    · rename_i hprefix
      rcases List.infix_cons_iff.1 h with hstart | hrest
      · exact absurd (List.isPrefixOf_iff_prefix.2 hstart) hprefix
      · rw [Option.isSome_map]
        exact ih hrest

/-- **A text is cut where the pattern occurs first.** -/
theorem splitFirst_eq_some_iff (hne : pattern ≠ []) :
    splitFirst pattern cs = some (before, after) ↔ CutsFirst pattern cs before after := by
  refine ⟨cutsFirst_of_splitFirst hne, fun h => ?_⟩
  have hinfix : pattern <:+: cs := ⟨before, after, h.eq.symm⟩
  obtain ⟨⟨before', after'⟩, hsplit⟩ := Option.isSome_iff_exists.1 (isSome_splitFirst hinfix)
  obtain ⟨rfl, rfl⟩ := h.unique (cutsFirst_of_splitFirst hne hsplit)
  exact hsplit

/-- A text is not cut just at a character that does not occur. -/
theorem splitFirst_singleton_eq_none_iff : splitFirst [c] cs = none ↔ c ∉ cs := by
  constructor
  · intro h hmem
    obtain ⟨before, after, rfl⟩ := List.append_of_mem hmem
    have hsome : (splitFirst [c] (before ++ c :: after)).isSome = true :=
      isSome_splitFirst ⟨before, after, by simp⟩
    rw [h] at hsome
    cases hsome
  · intro h
    rw [Option.eq_none_iff_forall_ne_some]
    rintro ⟨before, after⟩ hsome
    have hcut := cutsFirst_of_splitFirst (List.cons_ne_nil c []) hsome
    exact h (hcut.eq ▸ by simp)

/-- A pattern that occurs has a first occurrence. -/
theorem exists_cutsFirst (hne : pattern ≠ []) (h : pattern <:+: cs) :
    ∃ before after, CutsFirst pattern cs before after := by
  obtain ⟨⟨before, after⟩, hsplit⟩ := Option.isSome_iff_exists.1 (isSome_splitFirst h)
  exact ⟨before, after, cutsFirst_of_splitFirst hne hsplit⟩

end JsonShell.Text
