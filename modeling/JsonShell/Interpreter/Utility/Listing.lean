import JsonShell.Interpreter.Utility.Files

/-!
# Listing files

`ls` names what is in directories, in the order of the names, and `find` names what is at and below
some paths as far as it passes tests.
-/

set_option autoImplicit false

namespace JsonShell.Interpreter.Utility

open Shell

/-! ## Directories -/

/-- Something that is listed: the name under which it is shown, and what it is. -/
structure Entry where
  name : Octets
  place : Place
  node : Node

/-- The entries of a directory in the order of their names. -/
def entriesIn (t : FileTree) (place : Place) : List Entry :=
  let entries := (t.childrenOf place).map fun (name, node) =>
    (⟨Octets.ofString (String.ofList name), place ++ [name], node⟩ : Entry)
  entries.mergeSort fun a b => !Octets.before b.name a.name

/-- The number of bytes of a file. -/
def nodeSize : Node → Nat
  | .file content => content.length
  | .directory => 4096

/-- The order and the look of a listing. -/
structure ListingStyle where
  showsHidden : Bool
  showsDots : Bool
  isReversed : Bool
  bySize : Bool
  marksDirectories : Bool
  marksPrograms : Bool
  isLong : Bool
  isDeep : Bool

/-- What stands after a name to say what it names. -/
def ListingStyle.mark (s : ListingStyle) (programs : List Place) (e : Entry) : Octets :=
  match e.node with
  | .directory => if s.marksDirectories then ['/'] else []
  | .file _ => if s.marksPrograms && programs.contains e.place then ['*'] else []

/-- The line of an entry; `width` is that of the sizes. -/
def ListingStyle.line (s : ListingStyle) (programs : List Place) (width : Nat) (e : Entry) :
    Octets :=
  let front : Octets :=
    if s.isLong then
      let mode := match e.node with
        | .directory => "drwxr-xr-x 2"
        | .file _ => if programs.contains e.place then "-rwxr-xr-x 1" else "-rw-r--r-- 1"
      mode.toList ++ " root root ".toList ++ padLeft width (Octets.natural (nodeSize e.node)) ++
        " Jan  1 00:00 ".toList
    else []
  front ++ e.name ++ s.mark programs e ++ ['\n']

/-- Entries in the order in which they are shown. -/
def ListingStyle.arrange (s : ListingStyle) (entries : List Entry) : List Entry :=
  let entries := if s.bySize then
    entries.mergeSort fun a b => nodeSize b.node ≤ nodeSize a.node else entries
  if s.isReversed then entries.reverse else entries

/-- The lines of entries. -/
def ListingStyle.lines (s : ListingStyle) (programs : List Place) (entries : List Entry) : Octets :=
  let width := (entries.map fun e => (Octets.natural (nodeSize e.node)).length).foldl max 0
  (s.arrange entries).flatMap (s.line programs width)

/-- The entries of a directory that are shown. -/
def ListingStyle.visible (s : ListingStyle) (t : FileTree) (place : Place) : List Entry :=
  let own := (entriesIn t place).filter fun e => s.showsHidden || e.name.head? != some '.'
  if s.showsDots then ⟨['.'], place, .directory⟩ :: ⟨['.', '.'], place.dropLast, .directory⟩ :: own
  else own

/-- The listing of a directory, perhaps with a heading, and then those of the directories in it. -/
def ListingStyle.directory (s : ListingStyle) (t : FileTree) (programs : List Place) :
    Nat → Bool → Octets → Place → List Octets
  | 0, _, _, _ => []
  | fuel + 1, headed, path, place =>
    let entries := s.visible t place
    let heading := if headed then path ++ [':', '\n'] else []
    let total := if s.isLong then
      let blocks := entries.foldl (fun n e => n + (nodeSize e.node + 4095) / 4096 * 4) 0
      "total ".toList ++ Octets.natural blocks ++ ['\n'] else []
    let below := if s.isDeep then
      (s.arrange entries).flatMap fun e =>
        if e.node = .directory && e.name ≠ ['.'] && e.name ≠ ['.', '.'] then
          s.directory t programs fuel true (within path e.name) e.place
        else []
      else []
    (heading ++ total ++ s.lines programs entries) :: below

/-- `ls`. -/
def ls : Utility := fun _ args =>
  let g : Grammar := ⟨"1aAbBcCdfFgGhHiIklLmnNopqQrRsStuUvw:xXZ",
    [("all", 'a'), ("almost-all", 'A'), ("directory", 'd'), ("recursive", 'R'), ("reverse", 'r'),
      ("classify", 'F'), ("color", 'k')]⟩
  let args := args.filter fun a => !("--color".toList.isPrefixOf a)
  withCall "ls" g 2 false args fun c => do
    let s : ListingStyle :=
      { showsHidden := c.has 'a' || c.has 'A' || c.has 'f'
        showsDots := c.has 'a' || c.has 'f'
        isReversed := c.has 'r'
        bySize := c.has 'S'
        marksDirectories := c.has 'F' || c.has 'p'
        marksPrograms := c.has 'F'
        isLong := c.has 'l' || c.has 'n' || c.has 'g' || c.has 'o'
        isDeep := c.has 'R' }
    let paths := if c.operands.isEmpty then [['.']] else Octets.sorted c.operands
    let t ← files
    let programs := (← world).programs
    let found ← paths.mapM fun path => do
      match t.find (pathOf path) with
      | .ok (place, node) => return some (⟨path, place, node⟩ : Entry)
      | .error fault =>
        sayCannot "ls" "cannot access" path fault
        return none
    let entries := found.filterMap id
    let isOpened (e : Entry) : Bool := e.node = .directory && !c.has 'd'
    let single := entries.filter fun e => !isOpened e
    let opened := s.arrange (entries.filter isOpened)
    let headed := 1 < paths.length || s.isDeep
    let listings := opened.flatMap fun e =>
      s.directory t programs (t.nodes.length + 1) headed e.name e.place
    let first := if single.isEmpty then [] else [s.lines programs single]
    write 1 ((['\n'] : Octets).intercalate (first ++ listings))
    return if found.any Option.isNone then 2 else 0

end JsonShell.Interpreter.Utility
