import JsonShell.Text.Split

/-!
# Paths

A path is a text that is shown as it is written.  Its *components* are what it says: repeated
slashes, a slash at the end and a dot between slashes say nothing, a slash in front is the root, and
a dot in front is the current directory.  `join` puts one path after another, `parent?` and
`fileName?` take the last component off, and `stripPrefix?` takes components off the front.
-/

set_option autoImplicit false

namespace JsonShell

/-- A path as it is written. -/
structure Path where
  text : String
deriving DecidableEq, Repr

/-- A part of a path. -/
inductive Component where
  | root
  | current
  | up
  | name (cs : List Char)
deriving DecidableEq, Repr

namespace Path

/-- The component that a text between slashes is; an empty text and a dot are none. -/
def component? (cs : List Char) : Option Component :=
  if cs = [] ∨ cs = ['.'] then none
  else if cs = ['.', '.'] then some .up
  else some (.name cs)

/-- The components of a path. -/
def componentsOf (cs : List Char) : List Component :=
  match cs with
  | '/' :: rest => .root :: (Text.splitOn '/' rest).filterMap component?
  | _ =>
    match Text.splitOn '/' cs with
    | ['.'] :: rest => .current :: rest.filterMap component?
    | pieces => pieces.filterMap component?

/-- The components of a path. -/
def components (p : Path) : List Component :=
  componentsOf p.text.toList

/-- `base` is the beginning of the path, component by component. -/
def startsWith (p base : Path) : Bool :=
  base.components.isPrefixOf p.components

/-- The second path seen from the first.  A path from the root replaces the first. -/
def join (p : Path) (q : String) : Path :=
  match q.toList with
  | '/' :: _ => ⟨q⟩
  | _ =>
    if p.text = "" then ⟨q⟩
    else if p.text.toList.getLast? = some '/' then ⟨p.text ++ q⟩
    else ⟨p.text ++ "/" ++ q⟩

/-- Removes what says nothing from the end of a path that is written in reverse. -/
def trimReversed : List Char → List Char
  | ['/'] => ['/']
  | '/' :: rest => trimReversed rest
  | '.' :: '/' :: rest => trimReversed ('/' :: rest)
  | cs => cs

/-- A path without what says nothing at its end. -/
def trimEnd (cs : List Char) : List Char :=
  (trimReversed cs.reverse).reverse

/-- The path without its last component.  The root and the empty path have no parent. -/
def parent? (p : Path) : Option Path :=
  match trimReversed p.text.toList.reverse with
  | [] => none
  | ['/'] => none
  | cs => some ⟨String.ofList (trimReversed (cs.dropWhile (· != '/'))).reverse⟩

/-- The last component of a path, if it is a name. -/
def fileName? (p : Path) : Option String :=
  match p.components.getLast? with
  | some (.name cs) => some (String.ofList cs)
  | _ => none

/-- Removes what says nothing from the front of a path of which some components are taken off. -/
def trimFront : List Char → List Char
  | '/' :: rest => trimFront rest
  | ['.'] => []
  | '.' :: '/' :: rest => trimFront ('/' :: rest)
  | cs => cs

/-- The text after the given components; `whole` tells that nothing has been taken off yet. -/
def stripComponents (whole : Bool) : List Component → List Char → Option (List Char)
  | [], cs => some (if whole then cs else trimFront cs)
  | first :: base, cs =>
    let (found, rest) : Option Component × List Char :=
      match whole, cs with
      | true, '/' :: rest => (some .root, rest)
      | true, ['.'] => (some .current, [])
      | true, '.' :: '/' :: rest => (some .current, '/' :: rest)
      | _, _ =>
        let cs := if whole then cs else trimFront cs
        (component? (cs.takeWhile (· != '/')), cs.dropWhile (· != '/'))
    if found = some first then stripComponents false base rest else none

/-- The rest of a path that starts with `base`, as it is written. -/
def stripPrefix? (p base : Path) : Option Path :=
  (stripComponents true base.components p.text.toList).map fun rest =>
    ⟨String.ofList (trimEnd rest)⟩

/-! ## Parts of a file name -/

/-- The texts before and after the last dot of a file name.  A dot at the start does not count. -/
def splitExtension? (name : List Char) : Option (List Char × List Char) :=
  let stem := (name.reverse.dropWhile (· != '.')).drop 1
  if stem.isEmpty then none
  else some (stem.reverse, (name.reverse.takeWhile (· != '.')).reverse)

/-- The part of a file name after its last dot. -/
def extension? (name : String) : Option String :=
  (splitExtension? name.toList).map fun (_, extension) => String.ofList extension

/-- The part of a file name before its last dot, or all of it. -/
def stem (name : String) : String :=
  match splitExtension? name.toList with
  | some (stem, _) => String.ofList stem
  | none => name

example : components ⟨"./a//b/./c/"⟩ =
    [.current, .name ['a'], .name ['b'], .name ['c']] := by decide +kernel
example : parent? ⟨"a//b/."⟩ = some ⟨"a"⟩ ∧ parent? ⟨"a"⟩ = some ⟨""⟩ ∧ parent? ⟨"/"⟩ = none := by
  decide +kernel
example : stripPrefix? ⟨"/h/a//b/./c/."⟩ ⟨"//h/./a"⟩ = some ⟨"b/./c"⟩ := by decide +kernel
example : stripPrefix? ⟨"/hx"⟩ ⟨"/h"⟩ = none ∧ stripPrefix? ⟨"a/"⟩ ⟨""⟩ = some ⟨"a"⟩ := by
  decide +kernel
example : stem ".x" = ".x" ∧ stem "a.b.py" = "a.b" ∧ extension? "a." = some "" := by
  decide +kernel

end Path

end JsonShell
