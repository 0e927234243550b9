import JsonShell.Proofs.Render.Table
import JsonShell.Proofs.Text.Steady

/-!
# The table of an object and the texts it cuts

A text that is too wide is cut, and three dots show it.  What is kept is measured character by
character: as many characters as take, alone, the columns that the dots leave (`Table.truncate_eq`).
The text that comes out is measured as a whole, and it fits if its characters are steady
(`Table.stringWidth_truncate_le`); tabs, for one, have no width of their own, and a text of tabs is
not cut at all but grows by the dots.

The table of an object is a rectangle just if every value fits into its column
(`Table.sameWidth_fields_iff`), since a cell is padded but never cut.
-/

set_option autoImplicit false

namespace JsonShell

namespace Table

/-! ## Cutting a text -/

section Cutting

variable {s : String} {budget max : Nat} {cs rest : List Char} {c : Char}

theorem takeColumns_cons_of_le (h : Width.alone c ≤ budget) : takeColumns budget (c :: rest) =
    c :: takeColumns (budget - Width.alone c) rest :=
  if_pos h

theorem takeColumns_cons_of_not_le (h : ¬ Width.alone c ≤ budget) :
    takeColumns budget (c :: rest) = [] :=
  if_neg h

theorem takeColumns_isPrefix (budget : Nat) (cs : List Char) : takeColumns budget cs <+: cs := by
  induction cs generalizing budget with
  | nil => exact List.prefix_refl []
  | cons c rest ih =>
    by_cases h : Width.alone c ≤ budget
    · rw [takeColumns_cons_of_le h]
      exact (List.prefix_cons_inj c).2 (ih _)
    · rw [takeColumns_cons_of_not_le h]
      exact List.nil_prefix

/-- What is kept takes, character by character, no more than the budget. -/
theorem ownWidth_takeColumns_le (budget : Nat) (cs : List Char) :
    Width.ownWidth (takeColumns budget cs) ≤ budget := by
  induction cs generalizing budget with
  | nil => exact Nat.zero_le budget
  | cons c rest ih =>
    by_cases h : Width.alone c ≤ budget
    · have hrest := ih (budget - Width.alone c)
      rw [takeColumns_cons_of_le h, Width.ownWidth_cons]
      omega
    · rw [takeColumns_cons_of_not_le h]
      exact Nat.zero_le budget

/-- The next character would take more. -/
theorem lt_ownWidth_of_takeColumns (h : cs = takeColumns budget cs ++ c :: rest) :
    budget < Width.ownWidth (takeColumns budget cs) + Width.alone c := by
  induction cs generalizing budget with
  | nil => simp [takeColumns] at h
  | cons d cs ih =>
    by_cases hd : Width.alone d ≤ budget
    · rw [takeColumns_cons_of_le hd] at h ⊢
      have hrest := ih (List.cons.inj h).2
      rw [Width.ownWidth_cons]
      omega
    · rw [takeColumns_cons_of_not_le hd] at h ⊢
      obtain ⟨rfl, -⟩ := List.cons.inj h
      simpa [Width.ownWidth] using hd

theorem stringWidth_append_dots (kept : String) :
    stringWidth (kept ++ "...") = stringWidth kept + 3 := by
  have hall : "...".toList.all (fun c => decide (Width.IsPlain c)) = true := by decide +kernel
  have hplain : ∀ c ∈ "...".toList, Width.IsPlain c := fun c hc =>
    of_decide_eq_true (List.all_eq_true.1 hall c hc)
  have hneutral : Width.IsNeutral "...".toList :=
    congrArg Prod.snd (Width.measure_of_isPlain hplain)
  rw [stringWidth, String.toList_append, charsWidth_append hneutral, charsWidth_of_isPlain hplain]
  rfl

theorem truncate_of_le (h : stringWidth s ≤ max) : truncate s max = s :=
  if_pos h

/-- **A text that is too wide is cut, and three dots are put to it.**  What is kept are the first
characters, as many as take no more columns alone than the dots leave. -/
theorem truncate_eq (h : max < stringWidth s) : ∃ kept rest, s = kept ++ rest ∧
    truncate s max = kept ++ "..." ∧ Width.ownWidth kept.toList ≤ max - 3 ∧
    (∀ c cs, rest.toList = c :: cs → max - 3 < Width.ownWidth kept.toList + Width.alone c) ∧
    stringWidth (truncate s max) = stringWidth kept + 3 := by
  obtain ⟨cut, hcut⟩ := takeColumns_isPrefix (max - 3) s.toList
  have htruncate : truncate s max = String.ofList (takeColumns (max - 3) s.toList) ++ "..." :=
    if_neg (Nat.not_le.2 h)
  refine ⟨String.ofList (takeColumns (max - 3) s.toList), String.ofList cut, ?_, htruncate, ?_,
    ?_, ?_⟩
  · rw [← String.ofList_append, hcut, String.ofList_toList]
  · rw [String.toList_ofList]
    exact ownWidth_takeColumns_le _ _
  · intro c cs hc
    rw [String.toList_ofList] at hc ⊢
    exact lt_ownWidth_of_takeColumns (hc ▸ hcut).symm
  · rw [htruncate, stringWidth_append_dots]

/-- **A text of steady characters fits when it is cut.** -/
theorem stringWidth_truncate_le (hmax : 3 ≤ max) (h : ∀ c ∈ s.toList, Width.IsSteady c) :
    stringWidth (truncate s max) ≤ max := by
  by_cases hs : stringWidth s ≤ max
  · rwa [truncate_of_le hs]
  · obtain ⟨kept, rest, hsplit, -, hown, -, hwidth⟩ := truncate_eq (Nat.lt_of_not_le hs)
    have hkept : ∀ c ∈ kept.toList, Width.IsSteady c := fun c hc =>
      h c (by rw [hsplit, String.toList_append]; exact List.mem_append_left _ hc)
    have hle : stringWidth kept ≤ Width.ownWidth kept.toList := charsWidth_le_ownWidth hkept
    omega

/-- A control character in a text that was cut was in it before. -/
theorem not_mem_truncate {x : Char} (hx : x.toNat < 0x20) (h : x ∉ s.toList) (max : Nat) :
    x ∉ (truncate s max).toList := by
  have hdots : Shown "...".toList := by simp
  rw [truncate]
  split
  · exact h
  · rw [String.toList_append, String.toList_ofList, List.mem_append]
    rintro (hmem | hmem)
    · exact h ((takeColumns_isPrefix (max - 3) s.toList).subset hmem)
    · exact hdots.not_mem hx hmem

end Cutting

/-! ## The rows of fields -/

section Fields

variable {entries : Dictionary Value} {p : String × Value}

/-- A text that does not fit makes its cell as wide as it is. -/
theorem cell_max (text : String) (width : Nat) :
    cell text (max width (stringWidth text)) = cell text width := by
  have hpadding : max width (stringWidth text) - stringWidth text = width - stringWidth text := by
    omega
  rw [cell, cell, hpadding]

/-- The width of the column of keys. -/
def keyWidth (entries : Dictionary Value) : Nat :=
  widest "Field".length (Dictionary.keys entries)

/-- The width of the cell of a value. -/
def valueCellWidth (v : Value) : Nat :=
  max valueWidth (stringWidth (truncate v.text valueWidth))

/-- A row of two cells. -/
def fieldRow (keyWidth : Nat) (p : String × Value) : String :=
  row [p.1, truncate p.2.text valueWidth] [keyWidth, valueWidth]

/-- The texts of a row of two cells, with the widths that they have. -/
def fieldCells (keyWidth : Nat) (p : String × Value) : List (String × Nat) :=
  [(p.1, keyWidth), (truncate p.2.text valueWidth, valueCellWidth p.2)]

theorem fieldRow_eq (keyWidth : Nat) (p : String × Value) : fieldRow keyWidth p =
    row ((fieldCells keyWidth p).map Prod.fst) ((fieldCells keyWidth p).map Prod.snd) := by
  have hcell := cell_max (truncate p.2.text valueWidth) valueWidth
  show "│" ++ String.join [cell p.1 keyWidth, cell (truncate p.2.text valueWidth) valueWidth] = _
  rw [← hcell]
  rfl

theorem stringWidth_key_le (hp : p ∈ entries) : stringWidth p.1 ≤ keyWidth entries :=
  stringWidth_le_widest (List.mem_map_of_mem hp)

theorem fits_fieldCells (hp : p ∈ entries) :
    ∀ c ∈ fieldCells (keyWidth entries) p, stringWidth c.1 ≤ c.2 := by
  intro c hc
  rcases List.mem_cons.1 hc with rfl | hc
  · exact stringWidth_key_le hp
  · obtain rfl := List.mem_singleton.1 hc
    exact Nat.le_max_right _ _

theorem start_two (first second : Nat) : start [first, second] 2 = first + second + 7 := by
  simp only [start, List.take, breadth]
  omega

/-- A row is as wide as its key's column and its value's cell. -/
theorem isLine_fieldRow (hp : p ∈ entries)
    (hbreak : '\n' ∉ p.1.toList ∧ '\n' ∉ p.2.text.toList) :
    IsLine (keyWidth entries + valueCellWidth p.2 + 7) (fieldRow (keyWidth entries) p) := by
  have htext : ∀ c ∈ fieldCells (keyWidth entries) p, '\n' ∉ c.1.toList := by
    intro c hc
    rcases List.mem_cons.1 hc with rfl | hc
    · exact hbreak.1
    · obtain rfl := List.mem_singleton.1 hc
      exact not_mem_truncate (by decide) hbreak.2 _
  have hline := isLine_row (fits_fieldCells hp) htext
  rwa [← fieldRow_eq, fieldCells, List.map_cons, List.map_cons, List.map_nil, List.length_cons,
    List.length_singleton, start_two] at hline

/-- **A row shows the key and the value**, as it was cut. -/
theorem shows_fieldRow (hp : p ∈ entries) :
    Shows (fieldRow (keyWidth entries) p) 1 (keyWidth entries) p.1 ∧
      Shows (fieldRow (keyWidth entries) p) (keyWidth entries + 4) (valueCellWidth p.2)
        (truncate p.2.text valueWidth) := by
  have hkey := shows_row (j := 0) (fits_fieldCells hp) rfl
  have hvalue := shows_row (j := 1) (fits_fieldCells hp) rfl
  have hstart :
      start ((fieldCells (keyWidth entries) p).map Prod.snd) 1 = keyWidth entries + 4 := by
    simp only [start, fieldCells, List.map, List.take, breadth]
    omega
  rw [hstart] at hvalue
  rw [fieldRow_eq]
  exact ⟨hkey, hvalue⟩

/-! ## The table -/

theorem fields_eq (h : entries ≠ []) :
    fields entries =
      let widths := [keyWidth entries, valueWidth]
      border "┌" "┬" "┐" widths :: row ["Field", "Value"] widths :: border "├" "┼" "┤" widths ::
        entries.map (fieldRow (keyWidth entries)) ++ [border "└" "┴" "┘" widths] := by
  rw [fields, if_neg (by simpa using h), boxed, List.map_map]
  rfl

theorem isLine_fieldHeader (entries : Dictionary Value) :
    IsLine (keyWidth entries + valueWidth + 7)
      (row ["Field", "Value"] [keyWidth entries, valueWidth]) := by
  have hfits : ∀ c ∈ [("Field", keyWidth entries), ("Value", valueWidth)],
      stringWidth c.1 ≤ c.2 := by
    intro c hc
    rcases List.mem_cons.1 hc with rfl | hc
    · have hfield : stringWidth "Field" = "Field".length := by decide +kernel
      rw [hfield]
      exact le_widest _ _
    · obtain rfl := List.mem_singleton.1 hc
      decide +kernel
  have htext : ∀ c ∈ [("Field", keyWidth entries), ("Value", valueWidth)], '\n' ∉ c.1.toList := by
    simp
  have hline := isLine_row hfits htext
  rwa [← start_two]

theorem isLine_fieldBorder {left middle right : String} (hleft : IsEdge left)
    (hmiddle : IsEdge middle) (hright : IsEdge right) (entries : Dictionary Value) :
    IsLine (keyWidth entries + valueWidth + 7)
      (border left middle right [keyWidth entries, valueWidth]) := by
  have hline := isLine_border hleft hmiddle hright
    (List.cons_ne_nil (keyWidth entries) [valueWidth])
  rwa [← start_two]

/-- Each line of a table is as wide as its columns, but that the cell of a value that does not fit
is as wide as the value. -/
theorem exists_isLine_of_mem_fields (hne : entries ≠ [])
    (hbreak : ∀ p ∈ entries, '\n' ∉ p.1.toList ∧ '\n' ∉ p.2.text.toList) :
    ∀ line ∈ fields entries, IsLine (keyWidth entries + valueWidth + 7) line ∨
      ∃ p ∈ entries, line = fieldRow (keyWidth entries) p ∧
        IsLine (keyWidth entries + valueCellWidth p.2 + 7) line := by
  rw [fields, if_neg (by simpa using hne)]
  intro line hline
  rcases of_mem_boxed hline with ⟨_, _, _, hleft, hmiddle, hright, rfl⟩ | rfl | ⟨cells, hcells, rfl⟩
  · exact .inl (isLine_fieldBorder hleft hmiddle hright entries)
  · exact .inl (isLine_fieldHeader entries)
  · obtain ⟨p, hp, rfl⟩ := List.mem_map.1 hcells
    exact .inr ⟨p, hp, rfl, isLine_fieldRow hp (hbreak p hp)⟩

/-- **The table of an object is a rectangle just if every value fits into its column.** -/
theorem sameWidth_fields_iff (hne : entries ≠ [])
    (hbreak : ∀ p ∈ entries, '\n' ∉ p.1.toList ∧ '\n' ∉ p.2.text.toList) :
    (∃ width, ∀ line ∈ fields entries, stringWidth line = width) ↔
      ∀ p ∈ entries, stringWidth (truncate p.2.text valueWidth) ≤ valueWidth := by
  constructor
  · rintro ⟨width, hwidth⟩ p hp
    have hheader := hwidth (row ["Field", "Value"] [keyWidth entries, valueWidth])
      (by rw [fields_eq hne]; simp)
    have hrow := hwidth (fieldRow (keyWidth entries) p)
      (by rw [fields_eq hne]; simp [List.mem_map_of_mem hp])
    rw [(isLine_fieldHeader entries).width] at hheader
    rw [(isLine_fieldRow hp (hbreak p hp)).width, ← hheader] at hrow
    have hle : stringWidth (truncate p.2.text valueWidth) ≤ valueCellWidth p.2 :=
      Nat.le_max_right _ _
    omega
  · intro hfits
    refine ⟨keyWidth entries + valueWidth + 7, fun line hline => ?_⟩
    rcases exists_isLine_of_mem_fields hne hbreak line hline with h | ⟨p, hp, -, h⟩
    · exact h.width
    · rw [h.width, valueCellWidth, Nat.max_eq_left (hfits p hp)]

/-- A value fits if it does so uncut, or if its characters are steady. -/
theorem fits_of_isSteady
    (h : ∀ p ∈ entries,
      stringWidth p.2.text ≤ valueWidth ∨ ∀ c ∈ p.2.text.toList, Width.IsSteady c) :
    ∀ p ∈ entries, stringWidth (truncate p.2.text valueWidth) ≤ valueWidth := by
  intro p hp
  rcases h p hp with hfits | hsteady
  · rwa [truncate_of_le hfits]
  · exact stringWidth_truncate_le (by decide) hsteady

/-- A control character in the table of an object is in one of its keys or values. -/
theorem not_mem_fields {x : Char} (hx : x.toNat < 0x20)
    (h : ∀ p ∈ entries, x ∉ p.1.toList ∧ x ∉ p.2.text.toList) :
    ∀ line ∈ fields entries, x ∉ line.toList := by
  have hempty : Shown "(empty)".toList := by simp
  have hheader : Shown "Field".toList ∧ Shown "Value".toList := by simp
  rw [fields]
  split
  · intro line hline
    rw [List.mem_singleton.1 hline]
    exact hempty.not_mem hx
  · refine not_mem_boxed hx (fun t ht => ?_) (fun cells hcells t ht => ?_) _
    · rcases List.mem_cons.1 ht with rfl | ht
      · exact hheader.1.not_mem hx
      · rw [List.mem_singleton.1 ht]
        exact hheader.2.not_mem hx
    · obtain ⟨p, hp, rfl⟩ := List.mem_map.1 hcells
      rcases List.mem_cons.1 ht with rfl | ht
      · exact (h p hp).1
      · rw [List.mem_singleton.1 ht]
        exact not_mem_truncate hx (h p hp).2 _

end Fields

end Table

theorem Value.lines_table_map {entries : Dictionary Value} (colors : Bool) (hne : entries ≠ [])
    (hbreak : ∀ p ∈ entries, '\n' ∉ p.1.toList ∧ '\n' ∉ p.2.text.toList) :
    Text.lines (Value.table colors (.map entries)) = Table.fields entries := by
  refine Text.lines_unlines fun line hline => ?_
  rcases Table.exists_isLine_of_mem_fields hne hbreak line hline with h | ⟨p, hp, -, h⟩
  · exact ⟨h.no_break, h.no_return⟩
  · exact ⟨h.no_break, h.no_return⟩

/-- A value that does not fit makes the table of its object no rectangle. -/
theorem Value.not_sameWidth_table {key s : String} (colors : Bool) (hkey : '\n' ∉ key.toList)
    (hs : '\n' ∉ s.toList)
    (hwide : ¬ stringWidth (Table.truncate s Table.valueWidth) ≤ Table.valueWidth) :
    ¬ ∃ width, ∀ line ∈ Text.lines (Value.table colors (.map [(key, .string s)])),
      stringWidth line = width := by
  have hne : [(key, Value.string s)] ≠ [] := List.cons_ne_nil _ _
  have hbreak : ∀ p ∈ [(key, Value.string s)], '\n' ∉ p.1.toList ∧ '\n' ∉ p.2.text.toList := by
    intro p hp
    rw [List.mem_singleton.1 hp]
    exact ⟨hkey, hs⟩
  rw [Value.lines_table_map colors hne hbreak, Table.sameWidth_fields_iff hne hbreak]
  exact fun hfits => hwide (hfits (key, .string s) (List.mem_singleton_self _))

/-- **What is cut from a text, and which tables of objects are rectangles.**  A text that fits is
left as it is.  Of a text that does not fit the first characters are kept, as many as take alone no
more columns than the three dots after them leave; if its characters are steady, what comes out
fits.  The table of an object has a line for each entry, which shows its key and its value as it was
cut.  All its lines are of the same width just if all values fit into their column as they were cut,
and they do if they fit uncut or have steady characters. -/
theorem Value.table_fields (s : String) (limit : Nat) (colors : Bool) (entries : Dictionary Value) :
    (stringWidth s ≤ limit → Table.truncate s limit = s) ∧
    (limit < stringWidth s → ∃ kept rest, s = kept ++ rest ∧
      Table.truncate s limit = kept ++ "..." ∧ Width.ownWidth kept.toList ≤ limit - 3 ∧
      (∀ c cs, rest.toList = c :: cs → limit - 3 < Width.ownWidth kept.toList + Width.alone c) ∧
      stringWidth (Table.truncate s limit) = stringWidth kept + 3) ∧
    (3 ≤ limit → (∀ c ∈ s.toList, Width.IsSteady c) →
      stringWidth (Table.truncate s limit) ≤ limit) ∧
    (entries ≠ [] → (∀ p ∈ entries, '\n' ∉ p.1.toList ∧ '\n' ∉ p.2.text.toList) →
      ∃ (keyWidth : Nat) (top header rule bottom : String) (body : List String),
        Text.lines (Value.table colors (.map entries)) =
          top :: header :: rule :: (body ++ [bottom]) ∧
        body.length = entries.length ∧
        (∀ (i : Nat) (p : String × Value) (line : String),
          entries[i]? = some p → body[i]? = some line →
          Table.Shows line 1 keyWidth p.1 ∧
          Table.Shows line (keyWidth + 4) (max 40 (stringWidth (Table.truncate p.2.text 40)))
            (Table.truncate p.2.text 40)) ∧
        ((∃ width, ∀ line ∈ Text.lines (Value.table colors (.map entries)),
            stringWidth line = width) ↔
          ∀ p ∈ entries, stringWidth (Table.truncate p.2.text 40) ≤ 40) ∧
        ((∀ p ∈ entries, stringWidth p.2.text ≤ 40 ∨ ∀ c ∈ p.2.text.toList, Width.IsSteady c) →
          (∃ width, ∀ line ∈ Text.lines (Value.table colors (.map entries)),
            stringWidth line = width) ∧
          ∀ p ∈ entries, stringWidth (Table.truncate p.2.text 40) ≤ 40)) := by
  refine ⟨Table.truncate_of_le, Table.truncate_eq, Table.stringWidth_truncate_le,
    fun hne hbreak => ?_⟩
  have hiff := Table.sameWidth_fields_iff hne hbreak
  rw [Value.lines_table_map colors hne hbreak]
  refine ⟨Table.keyWidth entries, _, _, _, _, _, Table.fields_eq hne, List.length_map _, ?_, hiff,
    fun hsteady => ?_⟩
  · intro i p line hp hline
    rw [List.getElem?_map, hp] at hline
    obtain rfl := Option.some.inj hline
    exact Table.shows_fieldRow (List.mem_of_getElem? hp)
  · have hfits := Table.fits_of_isSteady hsteady
    exact ⟨hiff.2 hfits, hfits⟩

/-- A value of wide characters that is cut, and one with a tab that fits. -/
theorem Value.table_fields_wide :
    let entries : Dictionary Value := [("a\tb", .string "1\t2"),
      ("名", .string (String.ofList (List.replicate 25 '名')))]
    entries ≠ [] ∧ (∀ p ∈ entries, '\n' ∉ p.1.toList ∧ '\n' ∉ p.2.text.toList) ∧
      (∀ p ∈ entries, stringWidth p.2.text ≤ 40 ∨ ∀ c ∈ p.2.text.toList, Width.IsSteady c) ∧
      (∃ width, ∀ line ∈ Text.lines (Value.table true (.map entries)), stringWidth line = width) ∧
      (∀ p ∈ entries, stringWidth (Table.truncate p.2.text 40) ≤ 40) ∧
      3 ≤ 7 ∧ 7 < stringWidth "名前名前" ∧ (∀ c ∈ "名前名前".toList, Width.IsSteady c) ∧
      stringWidth (Table.truncate "名前名前" 7) ≤ 7 ∧ Table.truncate "名前名前" 7 = "名前..." := by
  intro entries
  have hne : entries ≠ [] := List.cons_ne_nil _ _
  have hbreak : ∀ p ∈ entries, '\n' ∉ p.1.toList ∧ '\n' ∉ p.2.text.toList := by
    decide +kernel
  have hsteady : ∀ p ∈ entries,
      stringWidth p.2.text ≤ 40 ∨ ∀ c ∈ p.2.text.toList, Width.IsSteady c := by
    intro p hp
    rcases List.mem_cons.1 hp with rfl | hp
    · exact .inl (by decide +kernel)
    · rw [List.mem_singleton.1 hp]
      exact .inr (Width.isSteady_of_all (by decide +kernel))
  have hchars : ∀ c ∈ "名前名前".toList, Width.IsSteady c :=
    Width.isSteady_of_all (by decide +kernel)
  obtain ⟨-, -, hcut, htable⟩ := Value.table_fields "名前名前" 7 true entries
  obtain ⟨_, _, _, _, _, _, -, -, -, -, htable⟩ := htable hne hbreak
  obtain ⟨hwidth, hfits⟩ := htable hsteady
  exact ⟨hne, hbreak, hsteady, hwidth, hfits, by decide, by decide +kernel, hchars,
    hcut (by decide) hchars, by decide +kernel⟩

/-- Fifty tabs do not fit, but none of them has a width of its own: they are all kept, and the line
of the table sticks out. -/
theorem Value.table_tabs :
    let s := String.ofList (List.replicate 50 '\t')
    let lines := Text.lines (Value.table false (.map [("k", .string s)]))
    '\n' ∉ s.toList ∧ 40 < stringWidth s ∧ Table.truncate s 40 = s ++ "..." ∧
      stringWidth (Table.truncate s 40) = 53 ∧ ¬ stringWidth (Table.truncate s 40) ≤ 40 ∧
      ¬ ∃ width, ∀ line ∈ lines, stringWidth line = width := by
  intro s lines
  have hbreak : '\n' ∉ s.toList := by decide +kernel
  have hwide : ¬ stringWidth (Table.truncate s Table.valueWidth) ≤ Table.valueWidth := by
    decide +kernel
  exact ⟨hbreak, by decide +kernel, by decide +kernel, by decide +kernel, by decide +kernel,
    Value.not_sameWidth_table false (by decide) hbreak hwide⟩

end JsonShell
