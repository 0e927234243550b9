import JsonShell.Line.Pipe

/-!
# Segments are written as they are read

A line can be written down from its segments (`Pipe.join`): a backslash goes before each pipe in a
segment, and a pipe between neighbours.  Cutting a line and writing it down again gives the line.
Writing down segments and cutting again gives the segments, unless a backslash at the end of one
escapes the pipe after it.  And a line has a pipe that counts just if it has more than one segment,
although one of the two scanners looks back for a backslash and the other one ahead for a pipe.
-/

set_option autoImplicit false

namespace JsonShell

namespace Pipe

/-- The line that has these segments. -/
def join (segments : List String) : String :=
  Text.join "|" (segments.map fun s => String.ofList (escape s.toList))

/-- The characters of a line that has these segments. -/
def joinChars : List (List Char) → List Char
  | [] => []
  | first :: rest => escape first ++ rest.flatMap fun s => '|' :: escape s

theorem toList_join (segments : List String) :
    (join segments).toList = joinChars (segments.map String.toList) := by
  cases segments with
  | nil => rfl
  | cons first rest =>
    rw [join, List.map_cons, Text.toList_join_cons, String.toList_ofList, List.flatMap_map,
      List.map_cons, joinChars, List.flatMap_map]
    simp only [String.toList_ofList]
    rfl

/-! ## Looking back and looking ahead -/

/-- What stands before a text matters only if the text starts with a pipe. -/
theorem occursAfter_congr {cs : List Char} (h : cs.head? ≠ some '|') (previous other : Char) :
    occursAfter previous cs = occursAfter other cs := by
  cases cs with
  | nil => rfl
  | cons c rest =>
    have hc : c ≠ '|' := fun heq => h (congrArg some heq)
    rw [occursAfter, occursAfter, beq_false_of_ne hc, Bool.false_and, Bool.false_and]

theorem length_consFirst {pieces : List (List Char)} (h : pieces ≠ []) (c : Char) :
    (Text.consFirst c pieces).length = pieces.length := by
  cases pieces with
  | nil => exact absurd rfl h
  | cons piece rest => rfl

theorem occursAfter_iff {cs : List Char} {previous : Char} (h : previous ≠ '\\') :
    occursAfter previous cs = true ↔ 1 < (segmentChars cs).length := by
  fun_induction segmentChars cs generalizing previous with
  | case1 => simp [occursAfter]
  | case2 rest ih =>
    -- The backslash and the pipe are skipped by both scanners.
    rw [length_consFirst (segmentChars_ne_nil rest), ← ih (show '|' ≠ '\\' by decide)]
    simp [occursAfter]
  | case3 rest hescape =>
    have hpositive := List.length_pos_iff.2 (segmentChars_ne_nil rest)
    simp [occursAfter, h, hpositive]
  | case4 c rest hescape hc ih =>
    rw [length_consFirst (segmentChars_ne_nil rest), occursAfter, beq_false_of_ne hc,
      Bool.false_and, Bool.false_or]
    by_cases hbackslash : c = '\\'
    · have hhead : rest.head? ≠ some '|' := by
        intro hhead
        obtain ⟨more, rfl⟩ := List.head?_eq_some_iff.1 hhead
        exact hescape more hbackslash rfl
      rw [occursAfter_congr hhead c ' ', ih (show ' ' ≠ '\\' by decide)]
    · exact ih hbackslash

/-! ## Cutting and writing down -/

theorem joinChars_consFirst {pieces : List (List Char)} (h : pieces ≠ []) (c : Char) :
    joinChars (Text.consFirst c pieces) = escape [c] ++ joinChars pieces := by
  obtain ⟨piece, rest, rfl⟩ := List.exists_cons_of_ne_nil h
  rw [Text.consFirst, joinChars, joinChars, ← List.append_assoc, escape, escape, escape,
    ← List.flatMap_append, List.singleton_append]

/-- Nothing is lost by cutting a line. -/
theorem joinChars_segmentChars (cs : List Char) : joinChars (segmentChars cs) = cs := by
  fun_induction segmentChars cs with
  | case1 => rfl
  | case2 rest ih =>
    rw [joinChars_consFirst (segmentChars_ne_nil rest), ih]
    rfl
  | case3 rest hescape ih =>
    obtain ⟨piece, pieces, hpieces⟩ := List.exists_cons_of_ne_nil (segmentChars_ne_nil rest)
    rw [hpieces, joinChars] at ih
    rw [hpieces, joinChars, List.flatMap_cons, List.cons_append, ih]
    rfl
  | case4 c rest hescape hc ih =>
    rw [joinChars_consFirst (segmentChars_ne_nil rest), ih, escape, List.flatMap_singleton,
      if_neg hc]
    rfl

/-- No segment is written with a pipe in front. -/
theorem head?_escape_append (cs : List Char) {rest : List Char}
    (h : cs = [] → rest.head? ≠ some '|') :
    (escape cs ++ rest).head? ≠ some '|' := by
  cases cs with
  | nil => exact h rfl
  | cons c cs =>
    rw [escape, List.flatMap_cons]
    split
    · simp
    · rename_i hc
      simpa using hc

theorem segmentChars_cons {c : Char} {rest : List Char} (hc : c ≠ '|')
    (h : c = '\\' → rest.head? ≠ some '|') :
    segmentChars (c :: rest) = Text.consFirst c (segmentChars rest) := by
  rw [segmentChars, if_neg hc]
  rintro rest' rfl rfl
  exact h rfl rfl

/-- A segment is read back up to the pipe after it, if there is one and no backslash escapes it. -/
theorem segmentChars_escape_append (cs : List Char) {rest : List Char}
    (h : rest.head? = some '|' → cs.getLast? ≠ some '\\') :
    segmentChars (escape cs ++ rest) = cs.foldr Text.consFirst (segmentChars rest) := by
  induction cs with
  | nil => rfl
  | cons c cs ih =>
    have hlast : rest.head? = some '|' → cs.getLast? ≠ some '\\' := by
      intro hhead hlast
      refine h hhead ?_
      rw [List.getLast?_cons, hlast]
      rfl
    rw [List.foldr_cons, ← ih hlast, escape, List.flatMap_cons, List.append_assoc, ← escape]
    by_cases hc : c = '|'
    · subst hc
      rfl
    · rw [if_neg hc]
      refine segmentChars_cons hc ?_
      rintro rfl
      refine head?_escape_append cs ?_
      rintro rfl hhead
      exact h hhead rfl

/-- Segments are read back as they are written, as long as none but the last ends with a
backslash. -/
theorem segmentChars_joinChars {segments : List (List Char)} (hne : segments ≠ [])
    (h : ∀ s ∈ segments.dropLast, s.getLast? ≠ some '\\') :
    segmentChars (joinChars segments) = segments := by
  induction segments with
  | nil => exact absurd rfl hne
  | cons first rest ih =>
    rw [joinChars]
    cases rest with
    | nil =>
      rw [List.flatMap_nil, segmentChars_escape_append first fun hhead => absurd hhead (by simp)]
      show first.foldr Text.consFirst [[]] = [first]
      rw [Text.foldr_consFirst, List.append_nil]
    | cons second rest =>
      have hfirst : first.getLast? ≠ some '\\' := h first (by simp)
      have hrest := ih (List.cons_ne_nil second rest) fun s hs => h s (by simp_all)
      have hcut : segmentChars ('|' :: joinChars (second :: rest)) =
          [] :: segmentChars (joinChars (second :: rest)) := by
        rw [segmentChars, if_pos rfl]
        exact fun rest' heq => absurd heq (by decide)
      rw [List.flatMap_cons, segmentChars_escape_append first fun _ => hfirst, List.cons_append,
        ← joinChars, hcut, hrest, Text.foldr_consFirst, List.append_nil]

end Pipe

/-- **Cutting a line at its pipes and writing segments down undo each other**, and a line has a pipe
that counts just if it has more than one segment. -/
theorem segments_join :
    (∀ line, (hasPipe line = true ↔ 1 < (segments line).length) ∧
      Pipe.join (segments line) = line) ∧
    ∀ pieces, pieces ≠ [] → (∀ s ∈ pieces.dropLast, s.toList.getLast? ≠ some '\\') →
      segments (Pipe.join pieces) = pieces := by
  refine ⟨fun line => ⟨?_, ?_⟩, fun pieces hne h => ?_⟩
  · rw [hasPipe, segments, List.length_map]
    exact Pipe.occursAfter_iff (by decide)
  · have hback : (segments line).map String.toList = Pipe.segmentChars line.toList := by
      rw [segments, List.map_map]
      simp [Function.comp_def]
    refine String.toList_injective ?_
    rw [Pipe.toList_join, hback, Pipe.joinChars_segmentChars]
  · have hlast : ∀ s ∈ (pieces.map String.toList).dropLast, s.getLast? ≠ some '\\' := by
      rw [← List.map_dropLast]
      exact List.forall_mem_map.2 h
    rw [segments, Pipe.toList_join, Pipe.segmentChars_joinChars (by simpa using hne) hlast]
    simp

/-- Backslashes and pipes at the ends of segments are told apart. -/
theorem segments_join_backslashes :
    ["a\\|", "|\\ ", "\\"] ≠ [] ∧
      (∀ s ∈ ["a\\|", "|\\ ", "\\"].dropLast, s.toList.getLast? ≠ some '\\') ∧
      hasPipe "a\\\\||\\|\\ |\\" = true ∧
      segments "a\\\\||\\|\\ |\\" = ["a\\|", "|\\ ", "\\"] := by
  have hne : ["a\\|", "|\\ ", "\\"] ≠ [] := by decide
  have hlast : ∀ s ∈ ["a\\|", "|\\ ", "\\"].dropLast, s.toList.getLast? ≠ some '\\' := by
    decide +kernel
  have hjoin : Pipe.join ["a\\|", "|\\ ", "\\"] = "a\\\\||\\|\\ |\\" := by decide +kernel
  have hsegments := segments_join.2 _ hne hlast
  rw [hjoin] at hsegments
  refine ⟨hne, hlast, (segments_join.1 _).1.2 ?_, hsegments⟩
  rw [hsegments]
  decide

end JsonShell
