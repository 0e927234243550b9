import JsonShell.Interpreter.Utility.Edit.Script

/-!
# Editing lines

A script is run for one line after the other.  The line that is worked on is the *space*; what is to
be kept for later lines is in the *hold*.  At the end of a script the space is printed, unless that
is not wanted, and then what has been put off until the line is done.

`Outside` is all that a run wants to know about files; what it writes to files is part of what it
leaves.
-/

set_option autoImplicit false

namespace JsonShell.Interpreter.Edit

/-- A line, and whether it has a line break. -/
structure Line where
  text : Octets
  isBroken : Bool

/-- What a run wants to know. -/
structure Outside where
  /-- The text of a file, which is empty if there is none. -/
  content : Octets → Octets
  /-- The name of the file that is edited. -/
  name : Octets
  /-- The space is not printed at the end of the script. -/
  isQuiet : Bool

/-- What is put off until a line is done. -/
inductive Later where
  | text (text : Octets)
  | file (path : Octets)
  | lineOf (path : Octets)

/-- A run of a script. -/
structure Run where
  space : Octets
  hold : Octets
  /-- The number of the line. -/
  number : Nat
  isBroken : Bool
  rest : List Line
  /-- What has been printed, in reverse. -/
  printed : List Octets
  /-- A line break is still owed. -/
  owesBreak : Bool
  later : List Later
  /-- The instructions whose ranges are open, with the numbers of the lines at which they end. -/
  ranges : List (Nat × Option Nat)
  /-- Something has been replaced since the line was read or asked about. -/
  hasReplaced : Bool
  lastRegex : Option Regex
  /-- What is written to files. -/
  written : List (Octets × Octets)
  /-- How many lines of files have been read. -/
  taken : List (Octets × Nat)

namespace Run

/-! ## Printing -/

/-- Prints a text. -/
def put (r : Run) (text : Octets) : Run :=
  let owed := if r.owesBreak && !text.isEmpty then ['\n'] else []
  { r with printed := (owed ++ text) :: r.printed, owesBreak := r.owesBreak && text.isEmpty }

/-- Prints a line; the last line of a text may have no line break. -/
def putLine (r : Run) (text : Octets) : Run :=
  if r.isBroken then r.put (text ++ ['\n'])
  else
    let owed := if r.owesBreak then ['\n'] else []
    { r with printed := (owed ++ text) :: r.printed, owesBreak := true }

/-- Writes a line to a file, or to the output. -/
def writeTo (r : Run) (path text : Octets) : Run :=
  if path = "/dev/stdout".toList then r.putLine text
  else { r with written := r.written ++ [(path, text ++ ['\n'])] }

/-- Prints what has been put off. -/
def putLater (o : Outside) (r : Run) : List Later → Run
  | [] => { r with later := [] }
  | .text text :: more => (r.put text).putLater o more
  | .file path :: more => (r.put (o.content path)).putLater o more
  | .lineOf path :: more =>
    let n := (r.taken.lookup path).getD 0
    let r := { r with taken := (path, n + 1) :: r.taken }
    match (Octets.lines (o.content path))[n]? with
    | some line => (r.put (line ++ ['\n'])).putLater o more
    | none => r.putLater o more

/-- Ends the work on a line: prints the space if that is wanted, and what has been put off. -/
def endLine (o : Outside) (prints : Bool) (r : Run) : Run :=
  let r := if prints && !o.isQuiet then r.putLine r.space else r
  r.putLater o r.later

/-! ## Selecting -/

/-- The line is the last one. -/
def isLast (r : Run) : Bool :=
  r.rest.isEmpty

/-- The expression of a search, and the run that remembers it. -/
def regexOf (r : Run) (s : Search) : Option Regex × Run :=
  match s.regex with
  | some x => (some x, { r with lastRegex := some x })
  | none => (r.lastRegex, r)

/-- The line is at an address. -/
def isAt (r : Run) (a : Address) : Bool × Run :=
  match a with
  | .number n => (r.number = n, r)
  | .last => (r.isLast, r)
  | .every first step => (first ≤ r.number && (r.number - first) % step = 0, r)
  | .beginning => (false, r)
  | .found s =>
    match r.regexOf s with
    | (some x, r) => ((x.find? s.options r.space).isSome, r)
    | (none, r) => (false, r)

/-- Opens or closes the range of an instruction. -/
def setRange (r : Run) (index : Nat) (stop : Option (Option Nat)) : Run :=
  let others := r.ranges.filter fun e => e.1 ≠ index
  { r with
    ranges := match stop with
      | some s => (index, s) :: others
      | none => others }

/-- The line is in the range of an instruction that is open. -/
def isInRange (r : Run) (index : Nat) (stop : RangeEnd) (known : Option Nat) : Bool × Run :=
  match known with
  | some last =>
    let r' := if last ≤ r.number then r.setRange index none else r
    (r.number ≤ last, r')
  | none =>
    match stop with
    | .at a =>
      let (ends, r) := r.isAt a
      (true, if ends then r.setRange index none else r)
    | _ => (true, r)

/-- Opens the range of an instruction at its first line, unless that is also the last one. -/
def openRange (r : Run) (index : Nat) (stop : RangeEnd) : Run :=
  let upTo (n : Nat) : Run := if n ≤ r.number then r else r.setRange index (some (some n))
  match stop with
  | .at (.number n) => upTo n
  | .plus n => upTo (r.number + n)
  | .multiple n => if n = 0 then r else upTo ((r.number + n - 1) / n * n)
  | .at .last => if r.isLast then r else r.setRange index (some none)
  | .at _ => r.setRange index (some none)

/-- The line is in the range of an instruction. -/
def selectsRange (r : Run) (index : Nat) (first : Address) (stop : RangeEnd) : Bool × Run :=
  match r.ranges.lookup index with
  | some known => r.isInRange index stop known
  | none =>
    match first with
    | .beginning =>
      if r.number = 1 then (r.setRange index (some none)).isInRange index stop none else (false, r)
    | first =>
      match r.isAt first with
      | (true, r) => (true, r.openRange index stop)
      | (false, r) => (false, r)

/-- The line is selected by an instruction. -/
def isSelected (r : Run) (index : Nat) (s : Selector) : Bool × Run :=
  let (found, r) : Bool × Run := match s.first, s.second with
    | none, _ => (true, r)
    | some a, none => r.isAt a
    | some a, some stop => r.selectsRange index a stop
  (found != s.negated, r)

/-! ## Replacing -/

/-- A text with a change of its letters: one for the next letter, and one for all. -/
def changeCase (next all : CaseChange) : Octets → Octets
  | [] => []
  | c :: rest =>
    let whole (c : Char) : Char :=
      if all = .upper then c.toUpper else if all = .lower then c.toLower else c
    let first := if next = .nextUpper then c.toUpper
      else if next = .nextLower then c.toLower else whole c
    first :: rest.map whole

/-- What takes the place of a match. -/
def replacementText (m : Regex.Match) (next all : CaseChange) : List ReplacementPart → Octets
  | [] => []
  | .change .nextUpper :: rest => replacementText m .nextUpper all rest
  | .change .nextLower :: rest => replacementText m .nextLower all rest
  | .change c :: rest => replacementText m next c rest
  | .text text :: rest =>
    changeCase next all text ++ replacementText m (if text.isEmpty then next else .none) all rest
  | .group n :: rest =>
    let text := m.group n
    changeCase next all text ++ replacementText m (if text.isEmpty then next else .none) all rest

/-- A text with some of its matches replaced; `offset` is where the rest of the text starts. -/
def replaceMatches (s : Substitution) (offset count : Nat) (rest : Octets) :
    List Regex.Match → Octets × Bool
  | [] => (rest, false)
  | m :: more =>
    let before := rest.take (m.start - offset)
    let after := rest.drop (m.start - offset + m.text.length)
    let isChosen := count = s.first || (s.all && s.first ≤ count)
    let text := if isChosen then replacementText m .none .none s.replacement else m.text
    let (tail, found) := replaceMatches s (m.start + m.text.length) (count + 1) after more
    (before ++ text ++ tail, isChosen || found)

/-- Makes a substitution. -/
def substitute (r : Run) (s : Substitution) : Run :=
  match r.regexOf s.search with
  | (none, r) => r
  | (some x, r) =>
    let matched := x.all s.search.options r.space
    let (text, found) := replaceMatches s 0 1 r.space matched
    if !found then r
    else
      let r := { r with space := text, hasReplaced := true }
      let r := if s.prints then r.putLine text else r
      match s.file with
      | some path => r.writeTo path text
      | none => r

/-- The text in which everything can be seen, broken into lines of a width. -/
def escapedText (text : Octets) : Octets :=
  let pieces := text.map fun c =>
    match c with
    | '\\' => "\\\\".toList
    | '\x07' => "\\a".toList
    | '\x08' => "\\b".toList
    | '\x0c' => "\\f".toList
    | '\n' => "\\n".toList
    | '\r' => "\\r".toList
    | '\t' => "\\t".toList
    | '\x0b' => "\\v".toList
    | c =>
      if 32 ≤ c.toNat && c.toNat < 127 then [c]
      else
        let digits := Nat.toDigits 8 c.toNat
        '\\' :: List.replicate (3 - digits.length) '0' ++ digits
  broken 0 pieces ++ ['$', '\n']
where
  /-- The pieces in lines of at most 69 bytes and a backslash. -/
  broken (width : Nat) : List Octets → Octets
    | [] => []
    | p :: rest =>
      if 69 < width + p.length then '\\' :: '\n' :: p ++ broken p.length rest
      else p ++ broken (width + p.length) rest

/-! ## Running -/

/-- Where the run goes after an instruction. -/
inductive Next where
  | proceed
  | goTo (index : Nat)
  /-- The script is done with the line; the space may be printed. -/
  | done (prints : Bool)
  /-- The script starts over with what is left of the space. -/
  | again
  /-- All is done. -/
  | quit (status : Nat) (prints : Bool)

/-- The index of the instruction with a label, or the end of the script. -/
def labelIndex (script : List Instruction) (label : Octets) : Nat :=
  if label.isEmpty then script.length
  else (script.findIdx? fun i => i.label == some label).getD script.length

/-- The index of the end of a block. -/
def blockEnd (script : List Instruction) (block : Nat) : Nat :=
  (script.findIdx? fun i => i.closes == some block).getD script.length

/-- Takes the next line into the space, after what is there if it is kept. -/
def takeLine (r : Run) (keeps : Bool) : Run :=
  match r.rest with
  | [] => r
  | line :: rest =>
    { r with
      space := if keeps then r.space ++ '\n' :: line.text else line.text
      number := r.number + 1
      isBroken := line.isBroken
      rest := rest
      hasReplaced := false }

/-- Does what an instruction says. -/
def perform (o : Outside) (script : List Instruction) (index : Nat) (i : Instruction) (r : Run) :
    Run × Next :=
  match i.action with
  | .block _ | .nothing => (r, .proceed)
  | .showNumber => (r.put (Octets.natural r.number ++ ['\n']), .proceed)
  | .append text => ({ r with later := r.later ++ [.text text] }, .proceed)
  | .insert text => (r.put text, .proceed)
  | .change text =>
    let isInside := i.selector.second.isSome && !i.selector.negated &&
      (r.ranges.lookup index).isSome
    (if isInside then r else r.put text, .done false)
  | .jump label => (r, .goTo (labelIndex script label))
  | .jumpIfReplaced label =>
    if r.hasReplaced then ({ r with hasReplaced := false }, .goTo (labelIndex script label))
    else (r, .proceed)
  | .jumpUnlessReplaced label =>
    if r.hasReplaced then ({ r with hasReplaced := false }, .proceed)
    else (r, .goTo (labelIndex script label))
  | .delete => (r, .done false)
  | .deleteFirst =>
    if r.space.contains '\n' then
      ({ r with space := (r.space.dropWhile (· != '\n')).drop 1 }, .again)
    else (r, .done false)
  | .showName => (r.put (o.name ++ ['\n']), .proceed)
  | .getHold => ({ r with space := r.hold }, .proceed)
  | .appendHold => ({ r with space := r.space ++ '\n' :: r.hold }, .proceed)
  | .putHold => ({ r with hold := r.space }, .proceed)
  | .appendToHold => ({ r with hold := r.hold ++ '\n' :: r.space }, .proceed)
  | .exchange => ({ r with space := r.hold, hold := r.space }, .proceed)
  | .showEscaped => (r.put (escapedText r.space), .proceed)
  | .next =>
    if r.rest.isEmpty then (r, .quit 0 true)
    else ((r.endLine o true).takeLine false, .proceed)
  | .appendNext =>
    if r.rest.isEmpty then (r, .quit 0 true)
    else ((r.putLater o r.later).takeLine true, .proceed)
  | .print => (r.putLine r.space, .proceed)
  | .printFirst =>
    if r.space.contains '\n' then
      (r.put (r.space.takeWhile (· != '\n') ++ ['\n']), .proceed)
    else (r.putLine r.space, .proceed)
  | .quit status prints => (r, .quit status prints)
  | .readFile path => ({ r with later := r.later ++ [.file path] }, .proceed)
  | .readLine path => ({ r with later := r.later ++ [.lineOf path] }, .proceed)
  | .substitute s => (r.substitute s, .proceed)
  | .writeFile path => (r.writeTo path r.space, .proceed)
  | .writeFirst path => (r.writeTo path (r.space.takeWhile (· != '\n')), .proceed)
  | .transliterate table =>
    ({ r with space := r.space.map fun c => (table.lookup c).getD c }, .proceed)
  | .clear => ({ r with space := [] }, .proceed)

/-- Runs the script for a line from an instruction on. -/
def runLine (o : Outside) (script : List Instruction) : Nat → Nat → Run → Run × Next
  | 0, _, r => (r, .quit 1 false)
  | fuel + 1, index, r =>
    match script[index]? with
    | none => (r, .done true)
    | some i =>
      match r.isSelected index i.selector, i.action with
      | (false, r), .block block => runLine o script fuel (blockEnd script block) r
      | (false, r), _ => runLine o script fuel (index + 1) r
      | (true, r), _ =>
        match perform o script index i r with
        | (r, .proceed) => runLine o script fuel (index + 1) r
        | (r, .goTo index) => runLine o script fuel index r
        | stopped => stopped

/-- Runs the script for the line in the space and for those after it.  The answer is the status with
which the script ends. -/
def runLines (o : Outside) (script : List Instruction) (limit : Nat) : Nat → Run → Run × Nat
  | 0, r => (r, 0)
  | fuel + 1, r =>
    match runLine o script limit 0 r with
    | (r, .quit status prints) => (if prints then r.endLine o true else r, status)
    | (r, .again) => runLines o script limit fuel (r.putLater o r.later)
    | (r, .done prints) => nextLine o script limit fuel (r.endLine o prints)
    | (r, _) => nextLine o script limit fuel (r.endLine o true)
where
  /-- Goes on to the next line. -/
  nextLine (o : Outside) (script : List Instruction) (limit fuel : Nat) (r : Run) : Run × Nat :=
    if r.rest.isEmpty then (r, 0)
    else runLines o script limit fuel (r.takeLine false)

/-- More steps than a sound script takes for a line. -/
def stepLimit : Nat := 100000

/-- What a script leaves: what it has printed, what it writes to files, and its status. -/
structure Edited where
  printed : Octets
  written : List (Octets × Octets)
  status : Nat
  hasQuit : Bool

/-- Runs a script on lines. -/
def edit (o : Outside) (script : List Instruction) (lines : List Line) : Edited :=
  match lines with
  | [] => ⟨[], [], 0, false⟩
  | line :: rest =>
    let start : Run :=
      { space := line.text, hold := [], number := 1, isBroken := line.isBroken, rest := rest
        printed := [], owesBreak := false, later := [], ranges := [], hasReplaced := false
        lastRegex := none, written := [], taken := [] }
    let size := lines.foldl (fun n l => n + l.text.length + 1) 0
    let (r, status) := runLines o script stepLimit (size + stepLimit) start
    ⟨r.printed.reverse.flatten, r.written, status, !r.rest.isEmpty⟩

end Run

end JsonShell.Interpreter.Edit
