import JsonShell.File.Fault
import JsonShell.File.Path
import JsonShell.Text.Utf8

/-!
# File trees

A `FileTree` is what there is on disk: for each *place*, given by the names that lead to it from the
root, a file or a directory.  The root itself, the empty place, is always there.  One place is the
current directory.

A path leads to a place by following its pieces from the root, if it starts with a slash, or from
the current directory.  Every piece has to be followed from a directory, so `a/` and `a/.` lead
somewhere only if `a` is one.

There are files and directories and nothing else: no symbolic links, so that every place has one
path of names, and no devices, pipes or sockets.  Nobody is refused anything either: every file can
be read and written, and every directory can be listed and added to.
-/

set_option autoImplicit false

namespace JsonShell

/-- What a place holds. -/
inductive Node where
  | file (content : Bytes)
  | directory
deriving DecidableEq, Repr

/-- The names that lead to a place from the root. -/
abbrev Place := List (List Char)

/-- Files and directories, and the directory that paths are relative to. -/
structure FileTree where
  nodes : List (Place × Node)
  current : Place
deriving DecidableEq, Repr

namespace FileTree

/-- Nothing but the current directory and those that lead to it. -/
def empty (current : Place) : FileTree :=
  ⟨(List.range current.length).map fun n => (current.take (n + 1), .directory), current⟩

/-- What a place holds. -/
def lookup (t : FileTree) (place : Place) : Option Node :=
  if place.isEmpty then some .directory else t.nodes.lookup place

/-- Puts a node at a place that is not the root. -/
def put (t : FileTree) (place : Place) (node : Node) : FileTree :=
  { t with nodes := (place, node) :: t.nodes.filter fun entry => entry.1 ≠ place }

/-! ## Following paths -/

/-- The length of a text in UTF-8. -/
def byteLength (cs : List Char) : Nat :=
  cs.foldl (fun n c => n + c.utf8Size) 0

/-- The greatest length of a name, in bytes. -/
def maxNameLength : Nat := 255

/-- The greatest length of a path, in bytes. -/
def maxPathLength : Nat := 4095

/-- The place that a piece leads to from a place. -/
def step (t : FileTree) (place : Place) (piece : List Char) : Except FileFault Place :=
  match t.lookup place with
  | none => .error .notFound
  | some (.file _) => .error .notDirectory
  | some .directory =>
    if piece = [] ∨ piece = ['.'] then .ok place
    else if piece = ['.', '.'] then .ok place.dropLast
    else if maxNameLength < byteLength piece then .error .nameTooLong
    else .ok (place ++ [piece])

/-- The place that pieces lead to from a place. -/
def walk (t : FileTree) (place : Place) : List (List Char) → Except FileFault Place
  | [] => .ok place
  | piece :: rest =>
    match t.step place piece with
    | .error fault => .error fault
    | .ok next => t.walk next rest

/-- Where a path starts, and its pieces between slashes.  The empty path leads nowhere. -/
def pieces (t : FileTree) (p : Path) : Except FileFault (Place × List (List Char)) :=
  let cs := p.text.toList
  if cs.contains '\x00' then .error .nulByte
  else if maxPathLength < byteLength cs then .error .nameTooLong
  else
    match cs with
    | [] => .error .notFound
    | '/' :: rest => .ok ([], Text.splitOn '/' rest)
    | cs => .ok (t.current, Text.splitOn '/' cs)

/-- The place that a path leads to, and what is there. -/
def find (t : FileTree) (p : Path) : Except FileFault (Place × Node) :=
  match t.pieces p with
  | .error fault => .error fault
  | .ok (start, pieces) =>
    match t.walk start pieces with
    | .error fault => .error fault
    | .ok place =>
      match t.lookup place with
      | none => .error .notFound
      | some node => .ok (place, node)

/-- There is something at the path. -/
def isPresent (t : FileTree) (p : Path) : Bool :=
  (t.find p).isOk

/-- There is a file at the path. -/
def isFile (t : FileTree) (p : Path) : Bool :=
  match t.find p with
  | .ok (_, .file _) => true
  | _ => false

/-- There is a directory at the path. -/
def isDirectory (t : FileTree) (p : Path) : Bool :=
  match t.find p with
  | .ok (_, .directory) => true
  | _ => false

/-! ## Reading -/

/-- The bytes of the file at a path. -/
def read (t : FileTree) (p : Path) : Except FileFault Bytes :=
  match t.find p with
  | .error fault => .error fault
  | .ok (_, .directory) => .error .isDirectory
  | .ok (_, .file content) => .ok content

/-- The text of the file at a path. -/
def readText (t : FileTree) (p : Path) : Except FileFault String :=
  match t.read p with
  | .error fault => .error fault
  | .ok content =>
    match Utf8.decode? content with
    | some s => .ok s
    | none => .error .notUtf8

/-- The names directly in a place, with what they name. -/
def childrenOf (t : FileTree) (place : Place) : List (List Char × Node) :=
  t.nodes.filterMap fun (other, node) =>
    match other.getLast? with
    | some name => if other.dropLast = place then some (name, node) else none
    | none => none

/-- The names in the directory at a path, with what they name. -/
def children (t : FileTree) (p : Path) : Except FileFault (List (List Char × Node)) :=
  match t.find p with
  | .error fault => .error fault
  | .ok (_, .file _) => .error .notDirectory
  | .ok (place, .directory) => .ok (t.childrenOf place)

/-! ## Writing -/

/-- The directory that a path's last piece is in, and that piece. -/
def target (t : FileTree) (p : Path) : Except FileFault (Place × List Char) :=
  match t.pieces p with
  | .error fault => .error fault
  | .ok (start, pieces) =>
    match t.walk start pieces.dropLast with
    | .error fault => .error fault
    | .ok place =>
      let last := pieces.getLastD []
      match t.lookup place with
      | none => .error .notFound
      | some (.file _) => .error .notDirectory
      | some .directory =>
        if maxNameLength < byteLength last then .error .nameTooLong else .ok (place, last)

/-- Pieces that name no new entry of a directory. -/
def isSpecial (piece : List Char) : Bool :=
  piece = [] || piece = ['.'] || piece = ['.', '.']

/-- The path without slashes at its end, unless it is nothing but slashes. -/
def dropSlashes (p : Path) : Path :=
  match p.text.toList.reverse.dropWhile (· == '/') with
  | [] => p
  | cs => ⟨String.ofList cs.reverse⟩

/-- Writes a file, whose new content may depend on the old one.  A slash at the end asks for a
directory, which cannot be written. -/
def update (t : FileTree) (p : Path) (content : Bytes → Bytes) : Except FileFault FileTree :=
  match t.target (dropSlashes p) with
  | .error fault => .error fault
  | .ok (place, piece) =>
    if isSpecial piece || p.text.toList.getLast? == some '/' then .error .isDirectory
    else
      match t.lookup (place ++ [piece]) with
      | some .directory => .error .isDirectory
      | some (.file old) => .ok (t.put (place ++ [piece]) (.file (content old)))
      | none => .ok (t.put (place ++ [piece]) (.file (content [])))

/-- Writes a file in place of what it held. -/
def write (t : FileTree) (p : Path) (content : Bytes) : Except FileFault FileTree :=
  t.update p fun _ => content

/-- Writes at the end of a file, which is created if there is none. -/
def append (t : FileTree) (p : Path) (content : Bytes) : Except FileFault FileTree :=
  t.update p (· ++ content)

/-- Makes one directory. -/
def makeDirectory (t : FileTree) (p : Path) : Except FileFault FileTree :=
  match t.target (dropSlashes p) with
  | .error fault => .error fault
  | .ok (place, piece) =>
    if isSpecial piece then .error .alreadyExists
    else
      match t.lookup (place ++ [piece]) with
      | some _ => .error .alreadyExists
      | none => .ok (t.put (place ++ [piece]) .directory)

/-- Makes a directory, and before that its parent if it is missing, for as many levels as given. -/
def makeLevels : Nat → FileTree → Path → Except FileFault FileTree
  | 0, t, _ => .ok t
  | levels + 1, t, p =>
    match p.parent? with
    | none => .ok t
    | some parent =>
      match t.makeDirectory p with
      | .ok t => .ok t
      | .error .notFound =>
        match makeLevels levels t parent with
        | .error fault => .error fault
        | .ok t =>
          match t.makeDirectory p with
          | .ok t => .ok t
          | .error fault => if t.isDirectory p then .ok t else .error fault
      | .error fault => if t.isDirectory p then .ok t else .error fault

/-- Makes a directory and all directories on the way to it, unless they are there. -/
def makeDirectories (t : FileTree) (p : Path) : Except FileFault FileTree :=
  makeLevels (p.text.length + 1) t p

/-- Makes the directory that a file is to be written in. -/
def makeParent (t : FileTree) (p : Path) : Except FileFault FileTree :=
  match p.parent? with
  | none => .ok t
  | some parent => t.makeDirectories parent

/-! ## Removing -/

/-- A place at or below another one. -/
def isWithin (place other : Place) : Bool :=
  other.isPrefixOf place

/-- Removes a place and all that is below it. -/
def erase (t : FileTree) (place : Place) : FileTree :=
  { t with nodes := t.nodes.filter fun entry => !isWithin entry.1 place }

/-- Removes a file. -/
def removeFile (t : FileTree) (p : Path) : Except FileFault FileTree :=
  match t.find p with
  | .error fault => .error fault
  | .ok (_, .directory) => .error .isDirectory
  | .ok (place, .file _) => .ok (t.erase place)

/-- Removes a directory that has nothing in it. -/
def removeDirectory (t : FileTree) (p : Path) : Except FileFault FileTree :=
  match t.find p with
  | .error fault => .error fault
  | .ok (_, .file _) => .error .notDirectory
  | .ok (place, .directory) =>
    if (t.childrenOf place).isEmpty then .ok (t.erase place) else .error .notEmpty

/-- Moves what is at a place, with all that is below it, to another place. -/
def move (t : FileTree) (source destination : Place) : FileTree :=
  let (moved, kept) := t.nodes.partition fun entry => isWithin entry.1 source
  let kept := kept.filter fun entry => !isWithin entry.1 destination
  { t with
    nodes := moved.map (fun entry => (destination ++ entry.1.drop source.length, entry.2)) ++ kept }

/-! ## Laws -/

theorem lookup_filter_ne {place other : Place} (h : other ≠ place) (l : List (Place × Node)) :
    (l.filter fun entry => entry.1 ≠ place).lookup other = l.lookup other := by
  induction l with
  | nil => rfl
  | cons entry rest ih =>
    obtain ⟨k, v⟩ := entry
    by_cases hk : k = place
    · have hb : (other == place) = false := by simp [h]
      simp only [List.filter_cons, hk, ne_eq, not_true_eq_false, decide_false, Bool.false_eq_true,
        if_false, List.lookup_cons, hb]
      exact ih
    · simp only [List.filter_cons, ne_eq, hk, not_false_eq_true, decide_true, if_true,
        List.lookup_cons]
      rw [← ih]

/-- What is put at a place is found there, and nothing else changes. -/
theorem lookup_put {t : FileTree} {place other : Place} {node : Node} (h : place ≠ []) :
    (t.put place node).lookup other = if other = place then some node else t.lookup other := by
  by_cases ho : other = []
  · subst ho
    simp [lookup, h.symm]
  · by_cases hne : other = place
    · subst hne
      simp [lookup, put, h]
    · have hb : (other == place) = false := by simp [hne]
      simp only [lookup, List.isEmpty_iff, ho, if_false, put, List.lookup_cons, hb, hne]
      exact lookup_filter_ne hne t.nodes

/-- Below the root there is nothing in an empty tree. -/
theorem isFile_empty (p : Path) : (empty []).isFile p = false := by
  have hlookup : ∀ place content, (empty []).lookup place ≠ some (.file content) := by
    intro place content h
    rw [lookup] at h
    split at h <;> cases h
  rw [isFile]
  split
  · rename_i place content hfind
    rw [find] at hfind
    split at hfind
    · cases hfind
    · split at hfind
      · cases hfind
      · split at hfind
        · cases hfind
        · rename_i hfile
          cases hfind
          exact absurd hfile (hlookup place content)
  · rfl

end FileTree

end JsonShell
