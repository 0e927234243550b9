import JsonShell.Proofs.Text.Split

/-!
# Lines are read back

A line has no line break in it, and all its characters are those of the text.  Lines that are put
together, each with its line break, are read back from the text, unless a carriage return at the end
of one is taken for a part of its line break (`lines_unlines`).
-/

set_option autoImplicit false

namespace JsonShell.Text

variable {s line : String}

/-! ## Lines -/

theorem dropCarriageReturn_subset (cs : List Char) : dropCarriageReturn cs ⊆ cs := by
  rw [dropCarriageReturn]
  split
  · exact List.dropLast_subset cs
  · exact List.Subset.refl cs

theorem exists_of_mem_linesOf {pieces : List (List Char)} {cs : List Char}
    (h : cs ∈ linesOf pieces) : ∃ piece ∈ pieces, cs ⊆ piece := by
  fun_induction linesOf pieces with
  | case1 => cases h
  | case2 last hempty => cases h
  | case3 last hne => exact ⟨last, List.mem_cons_self, by rw [List.mem_singleton.1 h]; simp⟩
  | case4 line next rest ih =>
    rcases List.mem_cons.1 h with rfl | h
    · exact ⟨line, List.mem_cons_self, dropCarriageReturn_subset line⟩
    · obtain ⟨piece, hpiece, hsubset⟩ := ih h
      exact ⟨piece, List.mem_cons_of_mem line hpiece, hsubset⟩

/-- **A line has no line break in it**, and no characters but those of the text. -/
theorem of_mem_lines (h : line ∈ lines s) : '\n' ∉ line.toList ∧ line.toList ⊆ s.toList := by
  obtain ⟨cs, hcs, rfl⟩ := List.mem_map.1 h
  obtain ⟨piece, hpiece, hsubset⟩ := exists_of_mem_linesOf hcs
  obtain ⟨hbreak, hpiece⟩ := of_mem_splitOn hpiece
  rw [String.toList_ofList]
  exact ⟨fun hmem => hbreak (hsubset hmem), List.Subset.trans hsubset hpiece⟩

theorem toList_unlines (ls : List String) :
    (unlines ls).toList = ls.flatMap fun line => line.toList ++ ['\n'] := by
  induction ls with
  | nil => rfl
  | cons line rest ih =>
    show (line ++ "\n" ++ unlines rest).toList = _
    rw [String.toList_append, String.toList_append, ih, List.flatMap_cons]
    rfl

theorem unlines_append (ls ms : List String) : unlines (ls ++ ms) = unlines ls ++ unlines ms := by
  rw [← String.toList_inj, String.toList_append, toList_unlines, toList_unlines, toList_unlines,
    List.flatMap_append]

/-- **Lines with their line breaks are read back.** -/
theorem lines_unlines {ls : List String}
    (h : ∀ line ∈ ls, '\n' ∉ line.toList ∧ line.toList.getLast? ≠ some '\r') :
    lines (unlines ls) = ls := by
  rw [lines, toList_unlines]
  induction ls with
  | nil => rfl
  | cons line rest ih =>
    obtain ⟨⟨hbreak, hreturn⟩, hrest⟩ := List.forall_mem_cons.1 h
    obtain ⟨piece, pieces, hpieces⟩ := List.exists_cons_of_ne_nil
      (splitOn_ne_nil '\n' (rest.flatMap fun line => line.toList ++ ['\n']))
    rw [List.flatMap_cons, List.append_assoc, List.singleton_append, splitOn_append hbreak, hpieces,
      linesOf, ← hpieces, List.map_cons, ih hrest, dropCarriageReturn, if_neg hreturn,
      String.ofList_toList]

end JsonShell.Text
