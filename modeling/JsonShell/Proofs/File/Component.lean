import JsonShell.Proofs.File.Route

/-!
# Components of joined paths

The components of a path are the pieces between its slashes, but for those that say nothing; only a
slash or a single dot in front is a component of its own.  So a slash that is not the first
character cuts the components (`componentsOf_append_cons`), and a path that is joined with another
one goes on with the components of that (`components_join`).

The other path has to be without a slash in front.  Then the joined path starts with the first one
(`startsWith_join`), and else nothing is left of it.
-/

set_option autoImplicit false

namespace JsonShell

namespace Path

open FileTree (IsQuiet)

variable {cs : List Char} {p : Path} {q : String}

/-! ## Components of texts -/

theorem component?_eq_none_iff {piece : List Char} : component? piece = none ↔ IsQuiet piece := by
  rw [component?, IsQuiet]
  split
  · simp [*]
  · split <;> simp [*]

theorem componentsOf_of_ne (h : cs.head? ≠ some '/') :
    componentsOf cs =
      if (Text.splitOn '/' cs).head? = some ['.'] then
        .current :: (Text.splitOn '/' cs).tail.filterMap component?
      else (Text.splitOn '/' cs).filterMap component? := by
  unfold componentsOf
  split
  · exact absurd rfl h
  · split
    · rename_i rest hsplit
      rw [hsplit]
      rfl
    · rename_i hnot
      refine (if_neg fun hhead => ?_).symm
      obtain ⟨rest, hrest⟩ := List.head?_eq_some_iff.1 hhead
      exact hnot rest hrest

/-- The first piece of a path is a component, and so is each later one that says something. -/
theorem length_componentsOf (h : cs ≠ []) : (componentsOf cs).length =
    ((Text.splitOn '/' cs).tail.filterMap component?).length + 1 := by
  obtain ⟨c, cs, rfl⟩ := List.exists_cons_of_ne_nil h
  by_cases hc : c = '/'
  · subst hc
    rfl
  · obtain ⟨piece, pieces, hpieces⟩ := List.exists_cons_of_ne_nil (Text.splitOn_ne_nil '/' cs)
    have hsplit : Text.splitOn '/' (c :: cs) = (c :: piece) :: pieces := by
      rw [Text.splitOn, if_neg hc, hpieces, Text.consFirst]
    rw [componentsOf_of_ne (by simpa using hc), hsplit]
    split
    · rfl
    · rename_i hdot
      have hsome : component? (c :: piece) ≠ none := by
        rw [ne_eq, component?_eq_none_iff]
        rintro (hempty | heq)
        · cases hempty
        · exact hdot (congrArg some heq)
      obtain ⟨component, hcomponent⟩ := Option.ne_none_iff_exists'.1 hsome
      rw [List.filterMap_cons_some hcomponent]
      rfl

/-- A slash that is not the first character is a cut between components. -/
theorem componentsOf_append_cons (h : cs ≠ []) (ds : List Char) : componentsOf (cs ++ '/' :: ds) =
    componentsOf cs ++ (Text.splitOn '/' ds).filterMap component? := by
  obtain ⟨c, rest, rfl⟩ := List.exists_cons_of_ne_nil h
  by_cases hc : c = '/'
  · subst hc
    show Component.root :: (Text.splitOn '/' (rest ++ '/' :: ds)).filterMap component? = _
    rw [Text.splitOn_append_cons, List.filterMap_append]
    rfl
  · have hne : (c :: rest).head? ≠ some '/' := by simpa using hc
    obtain ⟨piece, pieces, hpieces⟩ :=
      List.exists_cons_of_ne_nil (Text.splitOn_ne_nil '/' (c :: rest))
    have hne' : (c :: rest ++ '/' :: ds).head? ≠ some '/' := hne
    rw [componentsOf_of_ne hne, componentsOf_of_ne hne', Text.splitOn_append_cons, hpieces]
    have hhead : ((piece :: pieces) ++ Text.splitOn '/' ds).head? = (piece :: pieces).head? := rfl
    rw [hhead]
    by_cases hdot : (piece :: pieces).head? = some ['.']
    · rw [if_pos hdot, if_pos hdot, List.cons_append, List.tail_cons, List.filterMap_append]
      rfl
    · rw [if_neg hdot, if_neg hdot, List.filterMap_append]

/-! ## Components of joined paths -/

/-- **A joined path has the components of the first path, and then what the pieces of the second one
say.** -/
theorem components_join (hp : p.text ≠ "") (hq : q.toList.head? ≠ some '/') :
    (p.join q).components = p.components ++ (Text.splitOn '/' q.toList).filterMap component? := by
  rw [components, components, FileTree.toList_join hq, if_neg hp]
  have hne : p.text.toList ≠ [] := by simpa using hp
  generalize p.text.toList = cs at hne
  split
  · rename_i hlast
    obtain ⟨init, rfl⟩ := List.getLast?_eq_some_iff.1 hlast
    rw [List.append_assoc, List.singleton_append]
    by_cases hinit : init = []
    · subst hinit
      rfl
    · -- The slash at the end of the first path says nothing.
      have hend : componentsOf (init ++ ['/']) = componentsOf init := by
        rw [componentsOf_append_cons hinit]
        exact List.append_nil _
      rw [componentsOf_append_cons hinit, hend]
  · exact componentsOf_append_cons hne q.toList

theorem startsWith_self (p : Path) : p.startsWith p = true :=
  List.isPrefixOf_iff_prefix.2 List.prefix_rfl

/-- A path starts with what it was joined to, unless it was replaced. -/
theorem startsWith_join (p : Path) (hq : q.toList.head? ≠ some '/') :
    (p.join q).startsWith p = true := by
  rw [startsWith, List.isPrefixOf_iff_prefix]
  by_cases hp : p.text = ""
  · have hnone : p.components = [] := by
      rw [components, hp]
      rfl
    rw [hnone]
    exact List.nil_prefix
  · rw [components_join hp hq]
    exact List.prefix_append _ _

/-- A path from the root replaces the one that it is joined to. -/
theorem join_of_head? (p : Path) (hq : q.toList.head? = some '/') : p.join q = ⟨q⟩ := by
  obtain ⟨rest, hrest⟩ := List.head?_eq_some_iff.1 hq
  rw [join]
  split
  · rfl
  · rename_i hnot
    exact absurd hrest (hnot rest)

end Path

end JsonShell
