import JsonShell.Json.Printer
import JsonShell.Render.Listing
import JsonShell.Text.Split
import JsonShell.Text.Width

/-!
# Tables

An object is shown as a table of fields and values, a list of objects as a table with one column for
each key that occurs and one row for each object.  Cells are padded to the width of their column,
counted in terminal columns.  Everything else is shown as a listing.
-/

set_option autoImplicit false

namespace JsonShell

namespace Table

/-- The width of the column of values in a table of fields. -/
def valueWidth : Nat := 40

/-- The characters as long as their widths sum to at most `budget`. -/
def takeColumns (budget : Nat) : List Char → List Char
  | [] => []
  | c :: rest =>
    let w := (charWidth? c).getD 0
    if w ≤ budget then c :: takeColumns (budget - w) rest else []

/-- The text cut to at most `max` columns, with three dots if it was cut. -/
def truncate (s : String) (max : Nat) : String :=
  if stringWidth s ≤ max then s
  else String.ofList (takeColumns (max - 3) s.toList) ++ "..."

/-- A horizontal border: `left`, a segment for each column with `middle` between them, `right`. -/
def border (left middle right : String) (widths : List Nat) : String :=
  left ++ Text.join middle (widths.map fun w => repeated "─" (w + 2)) ++ right

/-- A cell of a row, padded to the width of its column. -/
def cell (text : String) (width : Nat) : String :=
  " " ++ text ++ repeated " " (width - stringWidth text) ++ " │"

/-- A row of cells. -/
def row (cells : List String) (widths : List Nat) : String :=
  "│" ++ String.join (List.zipWith cell cells widths)

/-- The lines of a table: a header, and the rows, between borders. -/
def boxed (header : List String) (rows : List (List String)) (widths : List Nat) : List String :=
  border "┌" "┬" "┐" widths :: row header widths :: border "├" "┼" "┤" widths ::
    (rows.map fun cells => row cells widths) ++ [border "└" "┴" "┘" widths]

/-- The greatest of the widths, and at least `least`. -/
def widest (least : Nat) (texts : List String) : Nat :=
  (texts.map stringWidth).foldl max least

/-- The table of the fields of an object. -/
def fields (entries : Dictionary Value) : List String :=
  if entries.isEmpty then ["(empty)"]
  else
    boxed ["Field", "Value"]
      (entries.map fun (key, v) => [key, truncate v.text valueWidth])
      [widest "Field".length (Dictionary.keys entries), valueWidth]

/-- The keys that occur in the rows, in order. -/
def columns (rows : List (Dictionary Value)) : List String :=
  Dictionary.keys (Dictionary.ofList (rows.flatMap fun r => r.map fun (key, _) => (key, ())))

/-- The text of a row in a column; empty if the row has no such key. -/
def cellText (row : Dictionary Value) (column : String) : String :=
  ((Dictionary.find? column row).map Value.text).getD ""

/-- The width of a column: that of its key or of its widest cell. -/
def columnWidth (rows : List (Dictionary Value)) (column : String) : Nat :=
  widest (stringWidth column)
    (rows.filterMap fun r => (Dictionary.find? column r).map Value.text)

/-- The table of a list of objects. -/
def grid (rows : List (Dictionary Value)) : List String :=
  let cols := columns rows
  boxed cols (rows.map fun r => cols.map (cellText r)) (cols.map (columnWidth rows))

/-- The lines of the table of a value. -/
def lines (colors : Bool) : Value → List String
  | .map entries => fields entries
  | .list items =>
    if items.isEmpty then ["(empty)"]
    else
      let rows := items.filterMap Value.entries?
      if rows.isEmpty then Listing.lines colors (.list items) else grid rows
  | v => Listing.lines colors v

end Table

/-- The table of a value. -/
def Value.table (colors : Bool) (v : Value) : String :=
  Text.unlines (Table.lines colors v)

example : Table.lines false (.list [.map [("a", .ofInt 1)], .null, .map [("b", .string "名")]]) =
    ["┌───┬────┐", "│ a │ b  │", "├───┼────┤", "│ 1 │    │", "│   │ 名 │", "└───┴────┘"] := by
  decide +kernel

end JsonShell
