import JsonShell.Interpreter.Regex.Reader
import JsonShell.Interpreter.Utility.Basic

/-!
# Searching lines

`grep` shows the lines that match one of its patterns, or the files that have such lines, or their
number.  Its status tells whether there are any.
-/

set_option autoImplicit false

namespace JsonShell.Interpreter.Utility

open Shell

/-- What `grep` looks for. -/
structure Quest where
  /-- Patterns and whether they are plain texts. -/
  regexes : List Regex
  ignoresCase : Bool
  /-- A match has to be all of a line, or words of it. -/
  wholeLine : Bool
  wholeWord : Bool
  inverted : Bool

/-- The expression that matches just a text. -/
def plainRegex (text : Octets) : Regex :=
  .sequence (text.map .char)

/-- The byte is part of a word. -/
def isWordChar (c : Option Char) : Bool :=
  Regex.isWordByte c

/-- A match that starts at a place and is as long as it can be under the conditions. -/
def Quest.matchAt? (q : Quest) (s : Regex.State) : Option Regex.Match :=
  let o : Regex.Options := ⟨q.ignoresCase, false⟩
  let found := q.regexes.filterMap fun r =>
    let ends := Regex.longestFirst (Regex.ends o r.refersBack r s)
    let fits (t : Regex.State) : Bool :=
      (!q.wholeLine || (s.last.isNone && t.rest.isEmpty)) &&
        (!q.wholeWord || (!isWordChar s.last && !isWordChar t.rest.head?))
    (ends.find? fits).map fun t =>
      (⟨s.offset, s.rest.take (t.offset - s.offset), t.captures, t.rest⟩ : Regex.Match)
  found.foldl
    (fun best m => match best with
      | none => some m
      | some b => if b.text.length < m.text.length then some m else some b)
    none

/-- The matches in a line that are not empty, from left to right, with the number of the byte at
which they start. -/
def Quest.matches (q : Quest) : Nat → Regex.State → List Regex.Match
  | 0, _ => []
  | fuel + 1, s =>
    match q.matchAt? s with
    | some m =>
      if m.text.isEmpty then next fuel s
      else
        m :: Quest.matches q fuel
          { s with offset := m.start + m.text.length, last := m.text.getLast?, rest := m.rest }
    | none => next fuel s
where
  /-- The matches from the next byte on. -/
  next (fuel : Nat) (s : Regex.State) : List Regex.Match :=
    match s.advance with
    | some s => Quest.matches q fuel s
    | none => []

/-- A line has a match at or after a place. -/
def Quest.hasMatch (q : Quest) : Nat → Regex.State → Bool
  | 0, _ => false
  | fuel + 1, s =>
    if (q.matchAt? s).isSome then true
    else
      match s.advance with
      | some s => q.hasMatch fuel s
      | none => false

/-- A line is one of those that are looked for. -/
def Quest.selects (q : Quest) (line : Octets) : Bool :=
  q.hasMatch (line.length + 1) (.atStart line) != q.inverted

/-- How `grep` shows what it has found. -/
structure Report where
  named : Bool
  numbered : Bool
  withOffsets : Bool
  onlyMatches : Bool
  before : Nat
  after : Nat
  most : Option Nat

/-- What stands in front of a line: the mark is a colon, or a dash for lines around it. -/
def Report.front (r : Report) (path : Octets) (mark : Char) (number offset : Nat) : Octets :=
  (if r.named then path ++ [mark] else []) ++
    (if r.numbered then Octets.natural number ++ [mark] else []) ++
    (if r.withOffsets then Octets.natural offset ++ [mark] else [])

/-- A line with its number, its offset and whether it is looked for. -/
structure Candidate where
  line : Octets
  number : Nat
  offset : Nat
  isSelected : Bool

/-- The lines of a text as candidates, up to a number of selected ones. -/
def candidates (q : Quest) (most : Option Nat) (number offset : Nat) :
    List Octets → List Candidate
  | [] => []
  | line :: rest =>
    let isSelected := most ≠ some 0 && q.selects line
    let most := if isSelected then most.map (· - 1) else most
    ⟨line, number, offset, isSelected⟩ ::
      candidates q most (number + 1) (offset + line.length + 1) rest

/-- The numbers of the lines that are shown, with whether they are selected. -/
def shownLines (r : Report) (cs : List Candidate) : List Candidate :=
  let numbers := (cs.filter fun c => c.isSelected).map fun c => c.number
  cs.filter fun c =>
    c.isSelected || numbers.any fun n =>
      (c.number < n && n ≤ c.number + r.before) || (n < c.number && c.number ≤ n + r.after)

/-- Shows lines; between groups of lines that are not neighbours there is a mark. -/
def Report.lines (r : Report) (q : Quest) (path : Octets) (last : Option Nat) :
    List Candidate → Octets
  | [] => []
  | c :: rest =>
    let gap : Octets := match last with
      | some n =>
        if (r.before ≠ 0 || r.after ≠ 0) && n + 1 < c.number then "--\n".toList else []
      | none => []
    let shown : Octets :=
      if r.onlyMatches then
        if !c.isSelected || q.inverted then []
        else
          (q.matches (c.line.length + 1) (.atStart c.line)).flatMap fun m =>
            r.front path ':' c.number (c.offset + m.start) ++ m.text ++ ['\n']
      else
        r.front path (if c.isSelected then ':' else '-') c.number c.offset ++ c.line ++ ['\n']
    gap ++ shown ++ r.lines q path (some c.number) rest

/-- The options of `grep`. -/
def grepGrammar : Grammar :=
  ⟨"A:bB:cC:e:Ef:FGhHiylLm:noPqrRsUvwxzuIa",
    [("extended-regexp", 'E'), ("fixed-strings", 'F'), ("basic-regexp", 'G'), ("regexp", 'e'),
      ("file", 'f'), ("ignore-case", 'i'), ("word-regexp", 'w'), ("line-regexp", 'x'),
      ("invert-match", 'v'), ("count", 'c'), ("files-with-matches", 'l'),
      ("files-without-match", 'L'), ("line-number", 'n'), ("only-matching", 'o'), ("quiet", 'q'),
      ("silent", 'q'), ("no-messages", 's'), ("max-count", 'm'), ("no-filename", 'h'),
      ("with-filename", 'H'), ("recursive", 'r'), ("after-context", 'A'), ("before-context", 'B'),
      ("context", 'C'), ("byte-offset", 'b'), ("text", 'a')]⟩

/-- The files at and below a path, in order of their names. -/
def filesBelow (t : FileTree) (path : Octets) : List Octets :=
  match t.find (pathOf path) with
  | .ok (place, .directory) =>
    let below := t.nodes.filterMap fun (other, node) =>
      match node with
      | .file _ =>
        if FileTree.isWithin other place && place.length < other.length then
          some (path ++ (other.drop place.length).flatMap fun name =>
            '/' :: Octets.ofString (String.ofList name))
        else none
      | .directory => none
    Octets.sorted below
  | _ => [path]

/-- The expressions of the patterns of a call. -/
def questRegexes (extended plain : Bool) (patterns : List Octets) :
    Except Regex.Fault (List Regex) :=
  (patterns.flatMap (Text.splitOn '\n')).mapM fun p =>
    if plain then .ok (plainRegex p) else Regex.read extended p

/-- Searches a text; the answer tells whether a line was found. -/
def searchText (q : Quest) (r : Report) (c : Call) (path text : Octets) : Shell Bool := do
  let cs := candidates q r.most 1 0 (Octets.lines text)
  let count := cs.countP fun c => c.isSelected
  let found := 0 < count
  if c.has 'q' then return found
  else if c.has 'l' then
    if found then write 1 (path ++ ['\n'])
  else if c.has 'L' then
    if !found then write 1 (path ++ ['\n'])
  else if c.has 'c' then
    write 1 ((if r.named then path ++ [':'] else []) ++ Octets.natural count ++ ['\n'])
  else if text.contains '\x00' && !c.has 'a' then
    if found then write 1 ("grep: ".toList ++ path ++ ": binary file matches\n".toList)
  else write 1 (r.lines q path none (shownLines r cs))
  return found

/-- `grep`, which may read its patterns in a given way. -/
def grepWith (extended plain : Bool) : Utility := fun _ args =>
  withCall "grep" grepGrammar 2 false args fun c => do
    let fromFiles ← (c.values 'f').mapM fun path => do
      return Octets.lines ((← textAt? "grep" path).getD [])
    let given := c.values 'e' ++ fromFiles.flatten
    let isGiven := c.has 'e' || c.has 'f'
    match if isGiven then some (given, c.operands) else
      c.operands.head?.map fun p => ([p], c.operands.drop 1) with
    | none =>
      write 2 "Usage: grep [OPTION]... PATTERNS [FILE]...\n".toList
      write 2 "Try 'grep --help' for more information.\n".toList
      return 2
    | some (patterns, operands) =>
      let kind := c.last? ['E', 'F', 'G', 'P']
      let isPlain := if kind.isSome then kind == some 'F' else plain
      let isExtended := if kind.isSome then kind == some 'E' || kind == some 'P' else extended
      match questRegexes isExtended isPlain patterns with
      | .error fault =>
        say "grep" fault.message.toList
        return 2
      | .ok regexes =>
        let q : Quest :=
          ⟨regexes, c.has 'i' || c.has 'y', c.has 'x', c.has 'w', c.has 'v'⟩
        let t ← files
        let isDeep := c.has 'r' || c.has 'R'
        let roots := if operands.isEmpty then (if isDeep then [['.']] else [['-']]) else operands
        let paths := if isDeep then roots.flatMap (filesBelow t) else roots
        let paths := if isDeep && operands.isEmpty then paths.map fun p => p.drop 2 else paths
        let number (letter : Char) : Option Nat := (c.value? letter).bind natural?
        let around := (number 'C').getD 0
        let named := match c.last? ['h', 'H'] with
          | some letter => letter == 'H'
          | none => 1 < operands.length || isDeep
        let r : Report :=
          ⟨named, c.has 'n', c.has 'b', c.has 'o', (number 'B').getD around,
            (number 'A').getD around, number 'm'⟩
        let results ← paths.mapM fun path => do
          let shownPath := if path = ['-'] then "(standard input)".toList else path
          if path ≠ ['-'] && t.isDirectory (pathOf path) then
            say "grep" (path ++ ": Is a directory".toList)
            return some false
          else if path ≠ ['-'] && !t.isPresent (pathOf path) then
            if !c.has 's' then sayFault "grep" path .notFound
            return none
          else
            match ← textAt? "grep" path with
            | none => return none
            | some text => return some (← searchText q r c shownPath text)
        let found := results.contains (some true)
        let isWhole := !results.contains none
        return if found && (isWhole || c.has 'q') then 0 else if isWhole then 1 else 2

/-- `grep`. -/
def grep : Utility :=
  grepWith false false

/-- `egrep`. -/
def egrep : Utility := fun engine args => do
  write 2 "egrep: warning: egrep is obsolescent; using grep -E\n".toList
  grepWith true false engine args

/-- `fgrep`. -/
def fgrep : Utility := fun engine args => do
  write 2 "fgrep: warning: fgrep is obsolescent; using grep -F\n".toList
  grepWith false true engine args

end JsonShell.Interpreter.Utility
