import JsonShell.Dictionary
import JsonShell.File.Tree

/-!
# Finding modules

A module is a file `NAME.EXTENSION` in one of the search directories or, failing that, in the
current directory.  The first directory that holds such a file wins.  A name that is a path of more
than one component is never found.
-/

set_option autoImplicit false

namespace JsonShell

/-- Where modules are looked for, and the extension of their files. -/
structure Loader where
  paths : List Path
  extension : String
deriving DecidableEq, Repr

namespace Loader

/-- The file name of a module. -/
def fileName (l : Loader) (name : String) : String :=
  name ++ "." ++ l.extension

/-- The paths at which a module may be, in the order in which they are tried. -/
def candidates (l : Loader) (name : String) : List Path :=
  l.paths.map (fun directory => directory.join (l.fileName name)) ++ [⟨l.fileName name⟩]

/-- A name with exactly one path component. -/
def isSimpleName (name : String) : Bool :=
  name ≠ "" && (Path.components ⟨name⟩).length == 1

/-- The file of a module. -/
def find? (l : Loader) (t : FileTree) (name : String) : Option Path :=
  if isSimpleName name then (l.candidates name).find? t.isFile else none

/-- The name of the module that an entry of a search directory is, if it is one. -/
def moduleName? (l : Loader) (t : FileTree) (directory : Path) (entry : List Char) :
    Option String :=
  let name := String.ofList entry
  if t.isFile (directory.join name) ∧ Path.extension? name = some l.extension then
    some (Path.stem name)
  else none

/-- The modules in one directory. -/
def namesIn (l : Loader) (t : FileTree) (directory : Path) : List String :=
  match t.children directory with
  | .ok entries => (entries.map Prod.fst).filterMap (l.moduleName? t directory)
  | .error _ => []

/-- The names of the modules in the search directories, in order and without repetition. -/
def list (l : Loader) (t : FileTree) : List String :=
  Dictionary.keys (Dictionary.ofList ((l.paths.flatMap (l.namesIn t)).map fun name => (name, ())))

example : isSimpleName "a/" = true ∧ isSimpleName "a/b" = false ∧ isSimpleName "" = false := by
  decide +kernel

end Loader

end JsonShell
