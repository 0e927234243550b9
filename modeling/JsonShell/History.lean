import JsonShell.File.Tree
import JsonShell.Text.Blank
import JsonShell.Text.Split

/-!
# The history of lines

A history keeps the lines that were run, oldest first, up to a capacity of at least one; the oldest
lines go first.  A history may have a file with one line for each entry, which is rewritten whenever
a line is recorded.
-/

set_option autoImplicit false

namespace JsonShell

/-- The lines that were run, oldest first. -/
structure History where
  entries : List String
  capacity : Nat
  path : Option Path
deriving DecidableEq, Repr

namespace History

/-- The capacity of a history of which nothing else is said. -/
def defaultCapacity : Nat := 1000

/-- The last `n` elements of a list. -/
def lastN {α : Type} (n : Nat) (xs : List α) : List α :=
  xs.drop (xs.length - n)

/-- A history without a file. -/
def new (capacity : Nat) : History :=
  ⟨[], max capacity 1, none⟩

/-- The history with another list of lines, cut to the capacity. -/
def withEntries (h : History) (entries : List String) : History :=
  { h with entries := lastN h.capacity entries }

/-- The history stored in a file.  A file that cannot be read holds none. -/
def load (t : FileTree) (path : Path) (capacity : Nat) : History :=
  let stored :=
    match t.readText path with
    | .ok s => (Text.lines s).filter fun line => !Text.isAllBlank line
    | .error _ => []
  { (new capacity).withEntries stored with path := some path }

/-- The text of the history's file. -/
def fileText (h : History) : String :=
  Text.unlines h.entries

/-- Writes the history's file.  Its directory is made even if the file cannot be written. -/
def save (h : History) (t : FileTree) : FileTree × Except FileFault Unit :=
  match h.path with
  | none => (t, .ok ())
  | some path =>
    match t.makeParent path with
    | .error fault => (t, .error fault)
    | .ok t =>
      match t.write path (Utf8.encode h.fileText) with
      | .error fault => (t, .error fault)
      | .ok t => (t, .ok ())

/-- Records a line, unless it is blank, and writes the file, if that is possible. -/
def add (h : History) (t : FileTree) (line : String) : History × FileTree :=
  let line := Text.trim line
  if line = "" then (h, t)
  else
    let h := h.withEntries (h.entries ++ [line])
    (h, (h.save t).1)

/-- The last `n` lines with their positions, the first line being at position 1. -/
def last (h : History) (n : Nat) : List (Nat × String) :=
  lastN n ((List.range h.entries.length).zip h.entries |>.map fun (i, line) => (i + 1, line))

example : ((((new 2).add (FileTree.empty []) "a").1.add (FileTree.empty []) " b ").1.add
    (FileTree.empty []) "c").1.entries = ["b", "c"] := by decide +kernel

end History

end JsonShell
