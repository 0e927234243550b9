import JsonShell.Proofs.Dictionary
import JsonShell.Proofs.Render.Listing
import JsonShell.Proofs.Text.Lines
import JsonShell.Proofs.Text.Utf8
import JsonShell.Proofs.Text.Width
import JsonShell.Render.Table

/-!
# Tables are rectangles

The table of a list of objects has a column for each key that occurs and a row for each object, and
all its lines take the same columns of the terminal (`Value.table_objects`).

Every cell begins with a space, so that the widths of cells add up whatever is written in them, and
a text that fits is padded to the width of its column (`Table.charsWidth_cell`).  So the columns of
a row start where those of the header do (`Table.shows_row`), and the whole row takes what a border
does (`Table.stringWidth_row`, `Table.stringWidth_border`).
-/

set_option autoImplicit false

namespace JsonShell

namespace Table

/-- The line shows the text in the column that starts and is as wide as is told: between the space
it begins with and the line it ends with, and padded with spaces. -/
def Shows (line : String) (start width : Nat) (text : String) : Prop :=
  ∃ before after padding, line = before ++ (" " ++ text ++ repeated " " padding ++ " │") ++ after ∧
    stringWidth before = start ∧ stringWidth text + padding = width

/-- What cells of these widths take together, each with spaces at both ends and a line. -/
def breadth : List Nat → Nat
  | [] => 0
  | width :: widths => width + 3 + breadth widths

/-- Where a column starts: after a line, and after the columns before it. -/
def start (widths : List Nat) (column : Nat) : Nat :=
  1 + breadth (widths.take column)

theorem start_length (widths : List Nat) : start widths widths.length = 1 + breadth widths := by
  rw [start, List.take_length]

/-! ## Cells -/

section Cells

variable {text : String} {width : Nat} {cs rest : List Char}

theorem toList_cell (text : String) (width : Nat) : (cell text width).toList =
    ' ' :: (text.toList ++ (List.replicate (width - stringWidth text) ' ' ++ [' ', '│'])) := by
  have hspace : " ".toList = [' '] := rfl
  have hend : " │".toList = [' ', '│'] := rfl
  rw [cell, String.toList_append, String.toList_append, String.toList_append, hspace, hend,
    toList_repeated hspace]
  simp

theorem charsWidth_space (rest : List Char) : charsWidth (' ' :: rest) = 1 + charsWidth rest := by
  have hrest := Width.measure_nonneg rest
  rw [charsWidth, charsWidth, Width.measure_space]
  exact Int.toNat_add (by decide) hrest

theorem charsWidth_spaces (n : Nat) (rest : List Char) :
    charsWidth (List.replicate n ' ' ++ rest) = n + charsWidth rest := by
  induction n with
  | zero => simp
  | succ n ih =>
    rw [List.replicate_succ, List.cons_append, charsWidth_space, ih]
    omega

theorem isNeutral_spaces (n : Nat) (rest : List Char) :
    Width.IsNeutral (List.replicate n ' ' ++ ' ' :: rest) := by
  cases n with
  | zero => exact Width.isNeutral_space rest
  | succ n =>
    rw [List.replicate_succ, List.cons_append]
    exact Width.isNeutral_space _

theorem charsWidth_line (hrest : Width.IsNeutral rest) :
    charsWidth ('│' :: rest) = 1 + charsWidth rest := by
  have hsingle : charsWidth ['│'] = 1 := by decide +kernel
  have happend : charsWidth (['│'] ++ rest) = _ := charsWidth_append hrest
  rwa [hsingle] at happend

/-- **A text that fits is padded to the width of its column.** -/
theorem charsWidth_cell (hfits : stringWidth text ≤ width) (hrest : Width.IsNeutral rest) :
    charsWidth ((cell text width).toList ++ rest) = width + 3 + charsWidth rest := by
  have hneutral := isNeutral_spaces (width - stringWidth text) ('│' :: rest)
  rw [toList_cell, List.cons_append, charsWidth_space, List.append_assoc, List.append_assoc,
    List.cons_append, List.singleton_append, charsWidth_append hneutral, charsWidth_spaces,
    charsWidth_space, charsWidth_line hrest]
  rw [stringWidth] at hfits ⊢
  omega

section Characters

variable {x : Char} (hx : x.toNat < 0x20)
include hx

theorem not_mem_cell (htext : x ∉ text.toList) : x ∉ (cell text width).toList := by
  have hspace : x ≠ ' ' := by
    rintro rfl
    exact absurd hx (by decide)
  have hpadding : Shown (List.replicate (width - stringWidth text) ' ' ++ [' ', '│']) := by
    simp [Shown.replicate]
  rw [toList_cell, List.mem_cons, List.mem_append]
  rintro (hmem | hmem | hmem)
  · exact hspace hmem
  · exact htext hmem
  · exact hpadding.not_mem hx hmem

/-- A control character in a row is in one of its texts. -/
theorem not_mem_row {cells : List String} (h : ∀ t ∈ cells, x ∉ t.toList) (widths : List Nat) :
    x ∉ (row cells widths).toList := by
  have hline : Shown "│".toList := by simp
  rw [row, String.toList_append, String.toList_join, ← List.map_uncurry_zip_eq_zipWith,
    List.mem_append, List.mem_flatMap]
  rintro (hmem | ⟨s, hs, hmem⟩)
  · exact hline.not_mem hx hmem
  · obtain ⟨⟨t, w⟩, htw, rfl⟩ := List.mem_map.1 hs
    exact not_mem_cell hx (h t (List.of_mem_zip htw).1) hmem

end Characters

end Cells

/-! ## Rows -/

section Rows

variable {α : Type} {columns : List α} {text : α → String} {width : α → Nat}

/-- The characters of the cells of a row. -/
def cellChars (text : α → String) (width : α → Nat) (columns : List α) : List Char :=
  columns.flatMap fun c => (cell (text c) (width c)).toList

theorem cellChars_append_cons (before after : List α) (c : α) :
    cellChars text width (before ++ c :: after) = cellChars text width before ++
      (cell (text c) (width c)).toList ++ cellChars text width after := by
  rw [cellChars, List.flatMap_append, List.flatMap_cons, ← List.append_assoc]
  rfl

theorem toList_row (text : α → String) (width : α → Nat) (columns : List α) :
    (row (columns.map text) (columns.map width)).toList = '│' :: cellChars text width columns := by
  rw [row, String.toList_append, String.toList_join, List.zipWith_map, List.zipWith_self,
    List.flatMap_map]
  rfl

theorem isNeutral_cellChars (text : α → String) (width : α → Nat) (columns : List α) :
    Width.IsNeutral (cellChars text width columns) := by
  cases columns with
  | nil => rfl
  | cons c columns =>
    rw [cellChars, List.flatMap_cons, toList_cell, List.cons_append]
    exact Width.isNeutral_space _

theorem charsWidth_cellChars (hfits : ∀ c ∈ columns, stringWidth (text c) ≤ width c) :
    charsWidth (cellChars text width columns) = breadth (columns.map width) := by
  induction columns with
  | nil => rfl
  | cons c columns ih =>
    obtain ⟨hc, hcolumns⟩ := List.forall_mem_cons.1 hfits
    have hcell := charsWidth_cell hc (isNeutral_cellChars text width columns)
    rw [cellChars, List.flatMap_cons, ← cellChars, hcell, ih hcolumns, List.map_cons, breadth]

theorem charsWidth_line_cellChars (hfits : ∀ c ∈ columns, stringWidth (text c) ≤ width c) :
    charsWidth ('│' :: cellChars text width columns) = 1 + breadth (columns.map width) := by
  rw [charsWidth_line (isNeutral_cellChars text width columns), charsWidth_cellChars hfits]

/-- **A row is as wide as its columns.** -/
theorem stringWidth_row (hfits : ∀ c ∈ columns, stringWidth (text c) ≤ width c) :
    stringWidth (row (columns.map text) (columns.map width)) =
      start (columns.map width) columns.length := by
  have hlength : columns.length = (columns.map width).length := (List.length_map width).symm
  rw [stringWidth, toList_row, charsWidth_line_cellChars hfits, hlength, start_length]

/-- **A row shows its texts, each in its column.** -/
theorem shows_row {j : Nat} {c : α} (hfits : ∀ c ∈ columns, stringWidth (text c) ≤ width c)
    (hj : columns[j]? = some c) :
    Shows (row (columns.map text) (columns.map width)) (start (columns.map width) j) (width c)
      (text c) := by
  obtain ⟨hlt, hget⟩ := List.getElem?_eq_some_iff.1 hj
  have hsplit : columns = columns.take j ++ c :: columns.drop (j + 1) := by
    rw [← hget, ← List.drop_eq_getElem_cons hlt, List.take_append_drop]
  have hbefore : ∀ d ∈ columns.take j, stringWidth (text d) ≤ width d :=
    fun d hd => hfits d (List.mem_of_mem_take hd)
  have hc : stringWidth (text c) ≤ width c := hfits c (List.mem_of_getElem? hj)
  refine ⟨String.ofList ('│' :: cellChars text width (columns.take j)),
    String.ofList (cellChars text width (columns.drop (j + 1))), width c - stringWidth (text c),
    ?_, ?_, Nat.add_sub_cancel' hc⟩
  · have hchars := (congrArg (cellChars text width) hsplit).trans (cellChars_append_cons ..)
    rw [← String.toList_inj, toList_row, ← cell, String.toList_append, String.toList_append,
      String.toList_ofList, String.toList_ofList, hchars]
    rfl
  · rw [stringWidth, String.toList_ofList, charsWidth_line_cellChars hbefore, start,
      List.map_take]

theorem exists_toList_row_eq (text : α → String) (width : α → Nat) (columns : List α) :
    ∃ cs, (row (columns.map text) (columns.map width)).toList = cs ++ ['│'] := by
  rw [toList_row]
  rcases List.eq_nil_or_concat columns with rfl | ⟨init, c, rfl⟩
  · exact ⟨[], rfl⟩
  · rw [List.concat_eq_append, cellChars_append_cons, toList_cell]
    exact ⟨'│' :: (cellChars text width init ++ ' ' :: ((text c).toList ++
      (List.replicate (width c - stringWidth (text c)) ' ' ++ [' ']))), by simp [cellChars]⟩

end Rows

/-! ## Borders -/

section Borders

/-- The characters that borders are drawn with. -/
def borderChars : List Char :=
  ['─', '┌', '┬', '┐', '├', '┼', '┤', '└', '┴', '┘']

theorem of_mem_borderChars {c : Char} (h : c ∈ borderChars) :
    Width.IsPlain c ∧ 0x20 ≤ c.toNat := by
  have hall : borderChars.all (fun c => decide (Width.IsPlain c ∧ 0x20 ≤ c.toNat)) = true := by
    decide +kernel
  exact of_decide_eq_true (List.all_eq_true.1 hall c h)

theorem toList_segment (w : Nat) : (repeated "─" (w + 2)).toList = List.replicate (w + 2) '─' :=
  toList_repeated rfl (w + 2)

theorem toList_border {left middle right : String} {l m r : Char} (hleft : left.toList = [l])
    (hmiddle : middle.toList = [m]) (hright : right.toList = [r]) (w : Nat) (ws : List Nat) :
    (border left middle right (w :: ws)).toList =
      l :: (List.replicate (w + 2) '─' ++ ws.flatMap fun v => m :: List.replicate (v + 2) '─') ++
        [r] := by
  rw [border, String.toList_append, String.toList_append, hleft, hright, List.map_cons,
    Text.toList_join_cons, List.flatMap_map]
  simp only [hmiddle, toList_segment, List.singleton_append]

/-- The text is one of the characters that borders are drawn with. -/
def IsEdge (s : String) : Prop :=
  ∃ c ∈ borderChars, s.toList = [c]

variable {left middle right : String} {widths : List Nat} (hleft : IsEdge left)
  (hmiddle : IsEdge middle) (hright : IsEdge right) (hne : widths ≠ [])
include hleft hmiddle hright hne

theorem mem_borderChars_of_mem_border :
    ∀ c ∈ (border left middle right widths).toList, c ∈ borderChars := by
  obtain ⟨l, hl, hleft⟩ := hleft
  obtain ⟨m, hm, hmiddle⟩ := hmiddle
  obtain ⟨r, hr, hright⟩ := hright
  obtain ⟨w, ws, rfl⟩ := List.exists_cons_of_ne_nil hne
  have hline : '─' ∈ borderChars := List.mem_cons_self
  intro c hc
  rw [toList_border hleft hmiddle hright] at hc
  simp only [List.mem_append, List.mem_cons, List.mem_flatMap, List.mem_replicate,
    List.not_mem_nil, or_false] at hc
  rcases hc with (rfl | ⟨-, rfl⟩ | ⟨v, -, rfl | ⟨-, rfl⟩⟩) | rfl
  · exact hl
  · exact hline
  · exact hm
  · exact hline
  · exact hr

/-- A border has a character between two columns, and as many as a column has with its spaces. -/
theorem length_border :
    (border left middle right widths).toList.length = start widths widths.length := by
  obtain ⟨l, -, hleft⟩ := hleft
  obtain ⟨m, -, hmiddle⟩ := hmiddle
  obtain ⟨r, -, hright⟩ := hright
  obtain ⟨w, ws, rfl⟩ := List.exists_cons_of_ne_nil hne
  have hrest : (ws.flatMap fun v => m :: List.replicate (v + 2) '─').length = breadth ws := by
    clear hne
    induction ws with
    | nil => rfl
    | cons v ws ih =>
      rw [List.flatMap_cons, List.length_append, ih, List.length_cons, List.length_replicate,
        breadth]
  rw [toList_border hleft hmiddle hright, start_length, breadth]
  simp only [List.length_append, List.length_cons, List.length_replicate, List.length_nil, hrest]
  omega

/-- **A border is as wide as its columns.** -/
theorem stringWidth_border :
    stringWidth (border left middle right widths) = start widths widths.length := by
  have hchars : ∀ c ∈ (border left middle right widths).toList, c ∈ borderChars :=
    mem_borderChars_of_mem_border hleft hmiddle hright hne
  rw [stringWidth, charsWidth_of_isPlain fun c hc => (of_mem_borderChars (hchars c hc)).1,
    length_border hleft hmiddle hright hne]

end Borders

theorem shown_border {left middle right : String} (hleft : IsEdge left) (hmiddle : IsEdge middle)
    (hright : IsEdge right) (widths : List Nat) :
    Shown (border left middle right widths).toList := by
  by_cases hne : widths = []
  · obtain ⟨l, hl, hleft⟩ := hleft
    obtain ⟨r, hr, hright⟩ := hright
    rw [hne, border, String.toList_append, String.toList_append, hleft, hright]
    simp [Text.join, (of_mem_borderChars hl).2, (of_mem_borderChars hr).2]
  · exact fun c hc =>
      (of_mem_borderChars (mem_borderChars_of_mem_border hleft hmiddle hright hne c hc)).2

/-- The lines of a table are borders and rows. -/
theorem of_mem_boxed {header : List String} {rows : List (List String)} {widths : List Nat}
    {line : String} (h : line ∈ boxed header rows widths) :
    (∃ left middle right, IsEdge left ∧ IsEdge middle ∧ IsEdge right ∧
      line = border left middle right widths) ∨
    line = row header widths ∨ ∃ cells ∈ rows, line = row cells widths := by
  simp only [boxed, List.mem_append, List.mem_cons, List.mem_map, List.not_mem_nil,
    or_false] at h
  rcases h with (rfl | rfl | rfl | ⟨cells, hcells, rfl⟩) | rfl
  · exact .inl ⟨_, _, _, ⟨'┌', by decide, rfl⟩, ⟨'┬', by decide, rfl⟩, ⟨'┐', by decide, rfl⟩, rfl⟩
  · exact .inr (.inl rfl)
  · exact .inl ⟨_, _, _, ⟨'├', by decide, rfl⟩, ⟨'┼', by decide, rfl⟩, ⟨'┤', by decide, rfl⟩, rfl⟩
  · exact .inr (.inr ⟨cells, hcells, rfl⟩)
  · exact .inl ⟨_, _, _, ⟨'└', by decide, rfl⟩, ⟨'┴', by decide, rfl⟩, ⟨'┘', by decide, rfl⟩, rfl⟩

/-- A control character in a table is in one of its texts. -/
theorem not_mem_boxed {x : Char} (hx : x.toNat < 0x20) {header : List String}
    {rows : List (List String)} (hheader : ∀ t ∈ header, x ∉ t.toList)
    (hrows : ∀ r ∈ rows, ∀ t ∈ r, x ∉ t.toList) (widths : List Nat) :
    ∀ line ∈ boxed header rows widths, x ∉ line.toList := by
  intro line hline
  rcases of_mem_boxed hline with ⟨_, _, _, hleft, hmiddle, hright, rfl⟩ | rfl | ⟨cells, hcells, rfl⟩
  · exact (shown_border hleft hmiddle hright widths).not_mem hx
  · exact not_mem_row hx hheader widths
  · exact not_mem_row hx (hrows cells hcells) widths

/-! ## Lines -/

/-- A line of a table: so wide, without a line break, and with no carriage return at its end that
could be taken for a part of one. -/
structure IsLine (width : Nat) (line : String) : Prop where
  width : stringWidth line = width
  no_break : '\n' ∉ line.toList
  no_return : line.toList.getLast? ≠ some '\r'

theorem isLine_border {left middle right : String} {widths : List Nat} (hleft : IsEdge left)
    (hmiddle : IsEdge middle) (hright : IsEdge right) (hne : widths ≠ []) :
    IsLine (start widths widths.length) (border left middle right widths) := by
  have hshown := shown_border hleft hmiddle hright widths
  exact ⟨stringWidth_border hleft hmiddle hright hne, hshown.not_mem (by decide),
    fun hlast => hshown.not_mem (by decide) (List.mem_of_getLast? hlast)⟩

theorem isLine_row {α : Type} {columns : List α} {text : α → String} {width : α → Nat}
    (hfits : ∀ c ∈ columns, stringWidth (text c) ≤ width c)
    (htext : ∀ c ∈ columns, '\n' ∉ (text c).toList) :
    IsLine (start (columns.map width) columns.length)
      (row (columns.map text) (columns.map width)) := by
  have hcells : ∀ t ∈ columns.map text, '\n' ∉ t.toList := by
    intro t ht
    obtain ⟨c, hc, rfl⟩ := List.mem_map.1 ht
    exact htext c hc
  refine ⟨stringWidth_row hfits, not_mem_row (by decide) hcells _, ?_⟩
  obtain ⟨cs, hcs⟩ := exists_toList_row_eq text width columns
  rw [hcs, List.getLast?_concat]
  decide

/-! ## Tables of objects -/

theorem le_widest (least : Nat) (texts : List String) : least ≤ widest least texts := by
  induction texts generalizing least with
  | nil => exact Nat.le_refl least
  | cons t texts ih => exact Nat.le_trans (Nat.le_max_left least (stringWidth t)) (ih _)

theorem stringWidth_le_widest {least : Nat} {texts : List String} {t : String} (h : t ∈ texts) :
    stringWidth t ≤ widest least texts := by
  induction texts generalizing least with
  | nil => cases h
  | cons s texts ih =>
    rcases List.mem_cons.1 h with rfl | h
    · exact Nat.le_trans (Nat.le_max_right least (stringWidth t)) (le_widest _ texts)
    · exact ih h

section Grid

variable {rows : List (Dictionary Value)} {r : Dictionary Value} {key : String}

/-- **The columns are the keys that occur.** -/
theorem mem_columns : key ∈ columns rows ↔ ∃ row ∈ rows, key ∈ Dictionary.keys row := by
  rw [columns, Dictionary.mem_keys_ofList]
  simp [Dictionary.keys]

theorem columns_pairwise (rows : List (Dictionary Value)) : (columns rows).Pairwise (· < ·) :=
  (Dictionary.sorted_ofList _).keys_pairwise

theorem columns_ne_nil (h : ∃ row ∈ rows, row ≠ []) : columns rows ≠ [] := by
  obtain ⟨row, hrow, hne⟩ := h
  obtain ⟨p, hp⟩ := List.exists_mem_of_ne_nil row hne
  exact List.ne_nil_of_mem (mem_columns.2 ⟨row, hrow, List.mem_map_of_mem hp⟩)

theorem cellText_of_find? {v : Value} (h : Dictionary.find? key r = some v) :
    cellText r key = v.text := by
  rw [cellText, h]
  rfl

theorem cellText_of_find?_eq_none (h : Dictionary.find? key r = none) : cellText r key = "" := by
  rw [cellText, h]
  rfl

theorem stringWidth_le_columnWidth (rows : List (Dictionary Value)) (key : String) :
    stringWidth key ≤ columnWidth rows key :=
  le_widest _ _

/-- Every text fits into its column. -/
theorem stringWidth_cellText_le (hr : r ∈ rows) (key : String) :
    stringWidth (cellText r key) ≤ columnWidth rows key := by
  cases hfind : Dictionary.find? key r with
  | none =>
    rw [cellText_of_find?_eq_none hfind]
    exact Nat.zero_le _
  | some v =>
    rw [cellText_of_find? hfind]
    exact stringWidth_le_widest (List.mem_filterMap.2 ⟨r, hr, by rw [hfind]; rfl⟩)

theorem not_mem_cellText {x : Char} (h : ∀ p ∈ r, x ∉ p.2.text.toList) (key : String) :
    x ∉ (cellText r key).toList := by
  cases hfind : Dictionary.find? key r with
  | none =>
    rw [cellText_of_find?_eq_none hfind]
    exact List.not_mem_nil
  | some v =>
    rw [cellText_of_find? hfind]
    exact h _ (Dictionary.mem_of_find? hfind)

/-- The lines between the borders. -/
theorem grid_eq (rows : List (Dictionary Value)) :
    grid rows =
      let widths := (columns rows).map (columnWidth rows)
      border "┌" "┬" "┐" widths :: row ((columns rows).map id) widths ::
        border "├" "┼" "┤" widths ::
        (rows.map fun r => row ((columns rows).map (cellText r)) widths) ++
        [border "└" "┴" "┘" widths] := by
  rw [grid, boxed, List.map_map, List.map_id]
  rfl

/-- **All lines of a table are as wide as its columns.** -/
theorem isLine_of_mem_grid (hkey : ∃ row ∈ rows, row ≠ [])
    (hbreak : ∀ row ∈ rows, ∀ p ∈ row, '\n' ∉ p.1.toList ∧ '\n' ∉ p.2.text.toList) :
    ∀ line ∈ grid rows,
      IsLine (start ((columns rows).map (columnWidth rows)) (columns rows).length) line := by
  have hne : (columns rows).map (columnWidth rows) ≠ [] := by
    rw [Ne, List.map_eq_nil_iff]
    exact columns_ne_nil hkey
  have hheader : ∀ c ∈ columns rows, '\n' ∉ c.toList := by
    intro c hc
    obtain ⟨row, hrow, hmem⟩ := mem_columns.1 hc
    obtain ⟨p, hp, rfl⟩ := List.mem_map.1 hmem
    exact (hbreak row hrow p hp).1
  intro line hline
  rcases of_mem_boxed hline with ⟨_, _, _, hleft, hmiddle, hright, rfl⟩ | rfl | ⟨cells, hcells, rfl⟩
  · have hborder := isLine_border hleft hmiddle hright hne
    rwa [List.length_map] at hborder
  · have hrow : IsLine _ (row ((columns rows).map id) _) :=
      isLine_row (fun c _ => stringWidth_le_columnWidth rows c) hheader
    rwa [List.map_id] at hrow
  · obtain ⟨r, hr, rfl⟩ := List.mem_map.1 hcells
    exact isLine_row (fun c _ => stringWidth_cellText_le hr c)
      fun c _ => not_mem_cellText (fun p hp => (hbreak r hr p hp).2) c

/-- A control character in the table of objects is in one of their keys or values. -/
theorem not_mem_grid {x : Char} (hx : x.toNat < 0x20)
    (h : ∀ row ∈ rows, ∀ p ∈ row, x ∉ p.1.toList ∧ x ∉ p.2.text.toList) :
    ∀ line ∈ grid rows, x ∉ line.toList := by
  refine not_mem_boxed hx (fun c hc => ?_) (fun cells hcells t ht => ?_) _
  · obtain ⟨row, hrow, hmem⟩ := mem_columns.1 hc
    obtain ⟨p, hp, rfl⟩ := List.mem_map.1 hmem
    exact (h row hrow p hp).1
  · obtain ⟨r, hr, rfl⟩ := List.mem_map.1 hcells
    obtain ⟨c, -, rfl⟩ := List.mem_map.1 ht
    exact not_mem_cellText (fun p hp => (h r hr p hp).2) c

end Grid

theorem lines_list {items : List Value} (colors : Bool)
    (hrows : items.filterMap Value.entries? ≠ []) :
    lines colors (.list items) = grid (items.filterMap Value.entries?) := by
  have hitems : items ≠ [] := by
    rintro rfl
    exact hrows rfl
  rw [lines, if_neg (by simpa using hitems)]
  dsimp only
  rw [if_neg (by simpa using hrows)]

end Table

/-- **The table of a list of objects is a rectangle that shows all of them.**  It has a line for
each object and four further lines, all of the same width.  Its columns are the keys that occur in
the objects, in the order of their bytes.  The second line shows the keys, and the line of an object
shows in each column the text of its value, or nothing but spaces if it has none.  No key and no
text has a line break. -/
theorem Value.table_objects (colors : Bool) (items : List Value) (rows : List (Dictionary Value))
    (hrows : items.filterMap Value.entries? = rows) (hkey : ∃ row ∈ rows, row ≠ [])
    (hbreak : ∀ row ∈ rows, ∀ p ∈ row, '\n' ∉ p.1.toList ∧ '\n' ∉ p.2.text.toList) :
    ∃ (columns : List String) (widths : List Nat) (top header rule bottom : String)
        (body : List String),
      Text.lines (Value.table colors (.list items)) =
        top :: header :: rule :: (body ++ [bottom]) ∧
      (Text.lines (Value.table colors (.list items))).length = 4 + rows.length ∧
      (∀ line ∈ Text.lines (Value.table colors (.list items)),
        stringWidth line = Table.start widths columns.length) ∧
      (∀ key, key ∈ columns ↔ ∃ row ∈ rows, key ∈ Dictionary.keys row) ∧
      columns.Pairwise (fun a b => Utf8.encode a < Utf8.encode b) ∧
      widths.length = columns.length ∧
      ∀ (j : Nat) (key : String) (width : Nat), columns[j]? = some key → widths[j]? = some width →
        Table.Shows header (Table.start widths j) width key ∧
        ∀ (i : Nat) (row : Dictionary Value) (line : String),
          rows[i]? = some row → body[i]? = some line →
          (∀ v, Dictionary.find? key row = some v →
            Table.Shows line (Table.start widths j) width v.text) ∧
          (Dictionary.find? key row = none →
            Table.Shows line (Table.start widths j) width "") := by
  have hne : items.filterMap Value.entries? ≠ [] := by
    obtain ⟨row, hrow, -⟩ := hkey
    rw [hrows]
    exact List.ne_nil_of_mem hrow
  have hgrid := Table.isLine_of_mem_grid hkey hbreak
  have hlines : Text.lines (Value.table colors (.list items)) = Table.grid rows := by
    rw [Value.table, Table.lines_list colors hne, hrows]
    exact Text.lines_unlines fun line hline => ⟨(hgrid line hline).no_break,
      (hgrid line hline).no_return⟩
  rw [hlines]
  refine ⟨Table.columns rows, (Table.columns rows).map (Table.columnWidth rows), _, _, _, _, _,
    Table.grid_eq rows, ?_, fun line hline => (hgrid line hline).width,
    fun key => Table.mem_columns, (Table.columns_pairwise rows).imp Utf8.encode_lt,
    List.length_map _, ?_⟩
  · rw [Table.grid_eq]
    simp
    omega
  · intro j key width hkey hwidth
    rw [List.getElem?_map, hkey] at hwidth
    obtain rfl := Option.some.inj hwidth
    refine ⟨Table.shows_row (fun c _ => Table.stringWidth_le_columnWidth rows c) hkey, ?_⟩
    intro i row line hrow hline
    rw [List.getElem?_map, hrow] at hline
    obtain rfl := Option.some.inj hline
    have hshows := Table.shows_row
      (fun c _ => Table.stringWidth_cellText_le (List.mem_of_getElem? hrow) c) hkey
    refine ⟨fun v hv => ?_, fun hnone => ?_⟩
    · rwa [Table.cellText_of_find? hv] at hshows
    · rwa [Table.cellText_of_find?_eq_none hnone] at hshows

/-- A wide key, an emoji with a skin tone, an object without keys and an element that is none. -/
theorem Value.table_objects_wide :
    let items : List Value := [.map [("a", .ofInt 1), ("名", .string "👍🏽!")], .null, .map [],
      .map [("bc", .list [])]]
    let rows : List (Dictionary Value) := [[("a", .ofInt 1), ("名", .string "👍🏽!")], [],
      [("bc", .list [])]]
    items.filterMap Value.entries? = rows ∧ (∃ row ∈ rows, row ≠ []) ∧
      (∀ row ∈ rows, ∀ p ∈ row, '\n' ∉ p.1.toList ∧ '\n' ∉ p.2.text.toList) ∧
      Value.table true (.list items) =
        "┌───┬────┬─────┐\n│ a │ bc │ 名  │\n├───┼────┼─────┤\n│ 1 │    │ 👍🏽! │\n" ++
        "│   │    │     │\n│   │ [] │     │\n└───┴────┴─────┘\n" ∧
      (Text.lines (Value.table true (.list items))).length = 7 ∧
      ∃ columns : List String, (∀ key, key ∈ columns ↔ key = "a" ∨ key = "名" ∨ key = "bc") ∧
        columns.Pairwise (fun a b => Utf8.encode a < Utf8.encode b) ∧
        ∃ width, ∀ line ∈ Text.lines (Value.table true (.list items)),
          stringWidth line = width := by
  intro items rows
  have hrows : items.filterMap Value.entries? = rows := rfl
  have hkey : ∃ row ∈ rows, row ≠ [] :=
    ⟨[("bc", .list [])], by simp [rows], List.cons_ne_nil _ _⟩
  have hbreak : ∀ row ∈ rows, ∀ p ∈ row, '\n' ∉ p.1.toList ∧ '\n' ∉ p.2.text.toList := by
    decide +kernel
  obtain ⟨columns, widths, _, _, _, _, _, -, hlength, hwidth, hcolumns, horder, -, -⟩ :=
    Value.table_objects true items rows hrows hkey hbreak
  refine ⟨hrows, hkey, hbreak, by decide +kernel, hlength, columns, ?_, horder,
    Table.start widths columns.length, hwidth⟩
  intro key
  rw [hcolumns]
  simp [rows, Dictionary.keys, or_assoc, -List.mem_map]

end JsonShell
