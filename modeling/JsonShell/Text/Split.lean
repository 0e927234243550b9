/-!
# Cutting a text at separators

`splitOn sep` cuts a text at every occurrence of one character and always gives at least one piece;
joining the pieces with the separator gives the text back.  `splitFirst` cuts once, at the first
occurrence of a short pattern.  `lines` cuts a text into lines the way a file is read: a line break
is a newline together with one carriage return before it, and a final newline starts no further
line.  `unlines` puts lines together, each with its line break.
-/

set_option autoImplicit false

namespace JsonShell.Text

/-- Puts a character in front of the first piece. -/
def consFirst (c : Char) : List (List Char) → List (List Char)
  | [] => [[c]]
  | piece :: pieces => (c :: piece) :: pieces

/-- The pieces between the occurrences of `sep`, always one more than there are occurrences. -/
def splitOn (sep : Char) : List Char → List (List Char)
  | [] => [[]]
  | c :: rest => if c = sep then [] :: splitOn sep rest else consFirst c (splitOn sep rest)

/-- The texts before and after the first occurrence of `pattern`, if there is one. -/
def splitFirst (pattern : List Char) : List Char → Option (List Char × List Char)
  | [] => if pattern.isEmpty then some ([], []) else none
  | c :: rest =>
    if pattern.isPrefixOf (c :: rest) then some ([], (c :: rest).drop pattern.length)
    else (splitFirst pattern rest).map fun (before, after) => (c :: before, after)

/-- The pieces of `s` between the occurrences of `sep`. -/
def splitString (sep : Char) (s : String) : List String :=
  (splitOn sep s.toList).map String.ofList

/-- The parts of `s` before and after the first `pattern`. -/
def splitStringFirst (pattern s : String) : Option (String × String) :=
  (splitFirst pattern.toList s.toList).map fun (before, after) =>
    (String.ofList before, String.ofList after)

/-- The pieces one after the other, with `sep` between neighbours. -/
def join (sep : String) (pieces : List String) : String :=
  String.intercalate sep pieces

/-- One carriage return at the end belongs to the line break and is dropped. -/
def dropCarriageReturn (cs : List Char) : List Char :=
  if cs.getLast? = some '\r' then cs.dropLast else cs

/-- A line break ends a line; the text after the last one is a line only if it is not empty. -/
def linesOf : List (List Char) → List (List Char)
  | [] => []
  | [last] => if last.isEmpty then [] else [last]
  | line :: next :: rest => dropCarriageReturn line :: linesOf (next :: rest)

/-- The lines of a text, without their line breaks. -/
def lines (s : String) : List String :=
  (linesOf (splitOn '\n' s.toList)).map String.ofList

/-- Lines one after the other, each with its line break. -/
def unlines (lines : List String) : String :=
  lines.foldr (fun line rest => line ++ "\n" ++ rest) ""

/-! ## Laws -/

theorem consFirst_ne_nil (c : Char) (pieces : List (List Char)) : consFirst c pieces ≠ [] := by
  cases pieces <;> simp [consFirst]

/-- A whole text is put in front of the first piece. -/
theorem foldr_consFirst (cs piece : List Char) (pieces : List (List Char)) :
    cs.foldr consFirst (piece :: pieces) = (cs ++ piece) :: pieces := by
  induction cs with
  | nil => rfl
  | cons c rest ih => rw [List.foldr_cons, ih, consFirst, List.cons_append]

theorem splitOn_ne_nil (sep : Char) (cs : List Char) : splitOn sep cs ≠ [] := by
  cases cs with
  | nil => simp [splitOn]
  | cons c rest =>
    rw [splitOn]
    split
    · simp
    · exact consFirst_ne_nil c _

theorem intercalate_consFirst (sep : List Char) (c : Char) {pieces : List (List Char)}
    (h : pieces ≠ []) : sep.intercalate (consFirst c pieces) = c :: sep.intercalate pieces := by
  match pieces, h with
  | [p], _ => simp [consFirst, List.intercalate]
  | p :: q :: rest, _ => simp [consFirst, List.intercalate, List.intersperse]

/-- **Nothing is lost**: the pieces joined with the separator are the text. -/
theorem intercalate_splitOn (sep : Char) (cs : List Char) :
    [sep].intercalate (splitOn sep cs) = cs := by
  induction cs with
  | nil => simp [splitOn, List.intercalate]
  | cons c rest ih =>
    rw [splitOn]
    have hne := splitOn_ne_nil sep rest
    split
    · rename_i h
      subst h
      obtain ⟨piece, pieces, hp⟩ := List.exists_cons_of_ne_nil hne
      rw [hp] at ih ⊢
      rw [← ih]
      simp [List.intercalate, List.intersperse]
    · rw [intercalate_consFirst _ _ hne, ih]

/-- The first piece, and then each further one after a separator. -/
theorem toList_join_cons (sep piece : String) (pieces : List String) :
    (join sep (piece :: pieces)).toList =
      piece.toList ++ pieces.flatMap fun p => sep.toList ++ p.toList := by
  induction pieces generalizing piece with
  | nil => simp [join]
  | cons next rest ih =>
    have hrest : (String.intercalate sep (next :: rest)).toList = _ := ih next
    rw [join, String.intercalate_cons_cons, String.toList_append, String.toList_append, hrest,
      List.flatMap_cons]
    simp only [List.append_assoc]

end JsonShell.Text
