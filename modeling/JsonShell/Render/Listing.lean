import JsonShell.Json.Printer
import JsonShell.Render.Paint
import JsonShell.Text.Split

/-!
# The indented listing of a value

A listing has one line for each entry of an object and each element of a list, at every level: two
spaces for each level above it, the key or the index in brackets, a colon, and then a leaf's text.
The entries of a container follow on the lines after its own.  A value that is no container is a
line by itself.
-/

set_option autoImplicit false

namespace JsonShell

/-- `n` copies of a text. -/
def repeated (s : String) (n : Nat) : String :=
  String.ofList (List.replicate n s.toList).flatten

namespace Listing

/-- The text of a leaf and its color; containers have none. -/
def leaf? : Value → Option (String × String)
  | .string s => some ("\"" ++ s ++ "\"", Paint.green)
  | .number n => some (n.text, Paint.yellow)
  | .bool b => some (Value.boolText b, Paint.magenta)
  | .null => some ("null", Paint.dim)
  | .list _ => none
  | .map _ => none

/-- What a line starts with: the indentation and the painted label. -/
def label (colors : Bool) (level : Nat) (color text : String) : String :=
  repeated "  " level ++ Paint.paint colors color text ++ ":"

/-- The line of a leaf. -/
def leafLine (colors : Bool) (start : String) (leaf : String × String) : String :=
  start ++ " " ++ Paint.paint colors leaf.2 leaf.1

mutual

/-- The lines of an entry whose own line starts with `start`. -/
def entryLines (colors : Bool) (level : Nat) (start : String) : Value → List String
  | .map entries => start :: mapLines colors (level + 1) entries
  | .list items => start :: itemLines colors (level + 1) 0 items
  | .string s => ((leaf? (.string s)).map (leafLine colors start)).toList
  | .number n => ((leaf? (.number n)).map (leafLine colors start)).toList
  | .bool b => ((leaf? (.bool b)).map (leafLine colors start)).toList
  | .null => ((leaf? .null).map (leafLine colors start)).toList

/-- The lines of the entries of an object. -/
def mapLines (colors : Bool) (level : Nat) : List (String × Value) → List String
  | [] => []
  | (key, v) :: rest =>
    entryLines colors level (label colors level Paint.cyan key) v ++ mapLines colors level rest

/-- The lines of the elements of a list from the given index. -/
def itemLines (colors : Bool) (level index : Nat) : List Value → List String
  | [] => []
  | v :: rest =>
    entryLines colors level (label colors level Paint.blue ("[" ++ toString index ++ "]")) v ++
      itemLines colors level (index + 1) rest

end

/-- The lines of a value. -/
def lines (colors : Bool) : Value → List String
  | .map entries => mapLines colors 0 entries
  | .list items => itemLines colors 0 0 items
  | v => [v.text]

end Listing

/-- The indented listing of a value. -/
def Value.listing (colors : Bool) (v : Value) : String :=
  Text.unlines (Listing.lines colors v)

example : Listing.lines false (.map [("k", .list [.string "x", .map []]), ("n", .null)]) =
    ["k:", "  [0]: \"x\"", "  [1]:", "n: null"] := by decide +kernel

end JsonShell
