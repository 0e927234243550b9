import JsonShell.Interpreter.Regex.Reader
import JsonShell.Interpreter.Integer

/-!
# Scripts for editing lines

A script of `sed` is a list of *instructions*.  Each of them has an action and a *selector* that
says for which lines it is done.  Blocks are written with braces; here an opening brace is a jump
over its block, so that a script is a plain list and labels are places in it.
-/

set_option autoImplicit false

namespace JsonShell.Interpreter.Edit

/-- An expression as it is used; none is the one that was used last. -/
structure Search where
  regex : Option Regex
  options : Regex.Options

/-- What a line has to be. -/
inductive Address where
  | number (n : Nat)
  | last
  /-- Every so many lines. -/
  | every (first step : Nat)
  | found (s : Search)
  /-- Before the first line. -/
  | beginning

/-- Where a range of lines ends. -/
inductive RangeEnd where
  | at (a : Address)
  | plus (n : Nat)
  /-- At the next line whose number is a multiple. -/
  | multiple (n : Nat)

/-- The lines for which an action is done. -/
structure Selector where
  first : Option Address := none
  second : Option RangeEnd := none
  negated : Bool := false

/-- A change of letters in a replacement. -/
inductive CaseChange where
  | upper
  | lower
  | nextUpper
  | nextLower
  | none
deriving DecidableEq, Repr

/-- A part of a replacement. -/
inductive ReplacementPart where
  | text (text : Octets)
  | group (n : Nat)
  | change (c : CaseChange)
deriving DecidableEq, Repr

/-- A replacement of what is found. -/
structure Substitution where
  search : Search
  replacement : List ReplacementPart
  /-- The number of the match that is replaced first. -/
  first : Nat
  /-- All later matches are replaced too. -/
  all : Bool
  prints : Bool
  file : Option Octets

/-- What is done with a line. -/
inductive Action where
  /-- Goes over a block if the line is not selected. -/
  | block (name : Nat)
  /-- The end of a block, or nothing at all. -/
  | nothing
  | showNumber
  | append (text : Octets)
  | insert (text : Octets)
  | change (text : Octets)
  | jump (label : Octets)
  | jumpIfReplaced (label : Octets)
  | jumpUnlessReplaced (label : Octets)
  | delete
  | deleteFirst
  | showName
  | getHold
  | appendHold
  | putHold
  | appendToHold
  | exchange
  | showEscaped
  | next
  | appendNext
  | print
  | printFirst
  | quit (status : Nat) (prints : Bool)
  | readFile (path : Octets)
  | readLine (path : Octets)
  | substitute (s : Substitution)
  | writeFile (path : Octets)
  | writeFirst (path : Octets)
  | transliterate (table : List (Char × Char))
  | clear

/-- A selector and what is done. -/
structure Instruction where
  selector : Selector
  action : Action
  /-- The label in front of it. -/
  label : Option Octets := none
  /-- The number of the block that ends here. -/
  closes : Option Nat := none

/-! ## Reading -/

/-- What is wrong with a script. -/
inductive Fault where
  /-- Found when so many bytes of the script were left. -/
  | found (message : Octets) (left : Nat)
  /-- A block has no end. -/
  | unclosed
  /-- A label to which an action jumps is not there. -/
  | noLabel (label : Octets)

/-- A fault that is found in front of a text. -/
def Fault.before (message : String) (rest : Octets) : Fault :=
  .found message.toList rest.length

/-- A fault that is found at the first byte of a text. -/
def Fault.at (message : String) (rest : Octets) : Fault :=
  .found message.toList (rest.length - 1)

/-- A fault of a script of so many bytes as it is told. -/
def Fault.text (size : Nat) : Fault → Octets
  | .found message left =>
    "-e expression #1, char ".toList ++ Octets.natural (size - left) ++ ": ".toList ++ message
  | .unclosed => "-e expression #1, char 0: unmatched `\x7b'".toList
  | .noLabel label => "can't find label for jump to `".toList ++ label ++ ['\x27']

/-- Skips blanks. -/
def skipBlanks (text : Octets) : Octets :=
  text.dropWhile Octets.isBlank

/-- Skips blanks and line breaks. -/
def skipSpaces (text : Octets) : Octets :=
  text.dropWhile Octets.isSpace

/-- A text up to a mark that no backslash keeps, and what follows.  In an expression a mark between
brackets does not count. -/
def delimited (isRegex : Bool) (mark : Char) : Nat → Bool → Octets → Option (Octets × Octets)
  | 0, _, _ => none
  | fuel + 1, inSet, text =>
    let keep (piece : Octets) (inSet : Bool) (rest : Octets) : Option (Octets × Octets) :=
      (delimited isRegex mark fuel inSet rest).map fun (found, after) => (piece ++ found, after)
    match text with
    | [] => none
    | '\\' :: c :: rest =>
      if inSet then
        if c == 'n' then keep ['\n'] true rest else keep ['\\'] true (c :: rest)
      else if c == mark then keep (if !isRegex && c == '&' then ['\\', c] else [c]) false rest
      else if c == 'n' && isRegex then keep ['\n'] false rest
      else keep ['\\', c] false rest
    | c :: rest =>
      if c == mark && !inSet then some ([], rest)
      else if isRegex && inSet && c == '[' &&
          [some ':', some '.', some '='].contains rest.head? then
        match rest.head?.bind fun m => Octets.indexOf? [m, ']'] (rest.drop 1) with
        | some n => keep (c :: rest.take (n + 3)) true (rest.drop (n + 3))
        | none => keep [c] true rest
      else if isRegex && !inSet && c == '[' then
        let start := rest.takeWhile (· == '^')
        let start := start.take 1
        let rest := rest.drop start.length
        match rest with
        | ']' :: rest => keep (c :: start ++ [']']) true rest
        | rest => keep (c :: start) true rest
      else keep [c] (inSet && c != ']') rest

/-- The byte of an escape that is a letter or a number, and how many bytes it takes. -/
def escapedByte? (after : Octets) : Option (Char × Nat) :=
  let number (base most : Nat) (digits : Octets) : Option (Char × Nat) :=
    let digits := (digits.takeWhile (isDigitOf base)).take most
    if digits.isEmpty then none
    else some (Char.ofNat (digitsValue base digits % 256), digits.length + 1)
  match after with
  | 'a' :: _ => some ('\x07', 1)
  | 'f' :: _ => some ('\x0c', 1)
  | 'r' :: _ => some ('\r', 1)
  | 't' :: _ => some ('\t', 1)
  | 'v' :: _ => some ('\x0b', 1)
  | 'x' :: digits => number 16 2 digits
  | 'o' :: digits => number 8 3 digits
  | 'd' :: digits => number 10 3 digits
  | _ => none

/-- Puts bytes in place of their escapes; `special` ones keep a backslash. -/
def withBytes (special : Char → Bool) : Nat → Octets → Octets
  | 0, text => text
  | fuel + 1, text =>
    match text with
    | '\\' :: rest =>
      match escapedByte? rest with
      | some (c, n) =>
        (if special c then ['\\', c] else [c]) ++ withBytes special fuel (rest.drop n)
      | none => '\\' :: rest.take 1 ++ withBytes special fuel (rest.drop 1)
    | c :: rest => c :: withBytes special fuel rest
    | [] => []

/-- Reads an expression in front of a rest; an empty one stands for the last one. -/
def readSearch (extended : Bool) (text : Octets) (options : Regex.Options) (rest : Octets) :
    Except Fault Search :=
  if text.isEmpty then .ok ⟨none, options⟩
  else
    let special (c : Char) : Bool := "*.[]^$/\\".toList.contains c
    match Regex.read extended (withBytes special (text.length + 1) text) with
    | .ok r => .ok ⟨some r, options⟩
    | .error fault => .error (.before fault.message rest)

/-- The letters after an expression of an address. -/
def addressOptions : Octets → Regex.Options → Regex.Options × Octets
  | 'I' :: rest, o => addressOptions rest { o with ignoresCase := true }
  | 'M' :: rest, o => addressOptions rest { o with byLine := true }
  | rest, o => (o, rest)

/-- A number at the start of a text, and what follows. -/
def leadingNumber (text : Octets) : Option (Nat × Octets) :=
  let digits := text.takeWhile Char.isDigit
  if digits.isEmpty then none else some (digitsValue 10 digits, text.drop digits.length)

/-- The address at the start of a text, and what follows. -/
def readAddress (extended : Bool) (text : Octets) : Except Fault (Option Address × Octets) :=
  let search (mark : Char) (rest : Octets) : Except Fault (Option Address × Octets) :=
    match delimited true mark (rest.length + 1) false rest with
    | none => .error (.before "unterminated address regex" [])
    | some (expression, rest) => do
      let (o, rest) := addressOptions rest {}
      return (some (.found (← readSearch extended expression o rest)), rest)
  match text with
  | '$' :: rest => .ok (some .last, rest)
  | '/' :: rest => search '/' rest
  | '\\' :: mark :: rest => search mark rest
  | text =>
    match leadingNumber text with
    | none => .ok (none, text)
    | some (n, rest) =>
      match skipBlanks rest with
      | '~' :: rest =>
        match leadingNumber (skipBlanks rest) with
        | some (step, rest) =>
          .ok (some (if step = 0 then .number n else .every n step), rest)
        | none => .ok (some (.number n), rest)
      | _ => .ok (some (if n = 0 then .beginning else .number n), rest)

/-- The end of a range at the start of a text, and what follows. -/
def readRangeEnd (extended : Bool) (text : Octets) : Except Fault (RangeEnd × Octets) := do
  match text with
  | '+' :: rest =>
    match leadingNumber rest with
    | some (n, rest) => return (.plus n, rest)
    | none => .error (.at "expected number after +/~" rest)
  | '~' :: rest =>
    match leadingNumber rest with
    | some (n, rest) => return (.multiple n, rest)
    | none => .error (.at "expected number after +/~" rest)
  | text =>
    match ← readAddress extended text with
    | (some .beginning, rest) => return (.at (.number 0), rest)
    | (some a, rest) => return (.at a, rest)
    | (none, _) => .error (.at "unexpected `,'" text)

/-- The selector at the start of a text, and what follows. -/
def readSelector (extended : Bool) (text : Octets) : Except Fault (Selector × Octets) := do
  let (first, rest) ← readAddress extended text
  let (second, rest) : Option RangeEnd × Octets ← match first, skipBlanks rest with
    | some _, ',' :: after => do
      let (stop, rest) ← readRangeEnd extended (skipBlanks after)
      pure (some stop, rest)
    | _, _ => pure (none, rest)
  let isRegexEnd : Bool := match second with
    | some (.at (.found _)) => true
    | _ => false
  let startsBefore : Bool := match first with
    | some .beginning => true
    | _ => false
  if startsBefore && !isRegexEnd then
    .error (.at "invalid usage of line address 0" (skipBlanks rest))
  else
    match skipBlanks rest with
    | '!' :: rest =>
      match skipBlanks rest with
      | '!' :: rest => .error (.before "multiple `!'s" rest)
      | rest => return (⟨first, second, true⟩, rest)
    | rest => return (⟨first, second, false⟩, rest)

/-- The parts of a replacement. -/
def replacementParts : Nat → Octets → List ReplacementPart
  | 0, _ => []
  | fuel + 1, text =>
    match text with
    | [] => []
    | '&' :: rest => .group 0 :: replacementParts fuel rest
    | '\\' :: c :: rest =>
      let after (part : ReplacementPart) : List ReplacementPart :=
        part :: replacementParts fuel rest
      match c with
      | 'U' => after (.change .upper)
      | 'L' => after (.change .lower)
      | 'u' => after (.change .nextUpper)
      | 'l' => after (.change .nextLower)
      | 'E' => after (.change .none)
      | 'n' => after (.text ['\n'])
      | c =>
        if c.isDigit then after (.group (c.toNat - 48))
        else
          match escapedByte? (c :: rest) with
          | some (b, n) => .text [b] :: replacementParts fuel ((c :: rest).drop n)
          | none => after (.text [c])
    | c :: rest => .text [c] :: replacementParts fuel rest

/-- The greatest number of a group in a replacement. -/
def lastGroup (parts : List ReplacementPart) : Nat :=
  parts.foldl (fun n part => match part with
    | .group m => max n m
    | _ => n) 0

/-- The flags after a substitution. -/
structure Flags where
  all : Bool := false
  prints : Bool := false
  first : Option Nat := none
  options : Regex.Options := {}
  file : Option Octets := none

/-- Reads the flags of a substitution. -/
def readFlags : Nat → Octets → Flags → Except Fault (Flags × Octets)
  | 0, text, f => .ok (f, text)
  | fuel + 1, text, f =>
    match text with
    | 'g' :: rest =>
      if f.all then .error (.before "multiple `g' options to `s' command" rest)
      else readFlags fuel rest { f with all := true }
    | 'p' :: rest =>
      if f.prints then .error (.before "multiple `p' options to `s' command" rest)
      else readFlags fuel rest { f with prints := true }
    | 'i' :: rest | 'I' :: rest =>
      readFlags fuel rest { f with options := { f.options with ignoresCase := true } }
    | 'm' :: rest | 'M' :: rest =>
      readFlags fuel rest { f with options := { f.options with byLine := true } }
    | 'w' :: rest =>
      let path := (skipBlanks rest).takeWhile (· != '\n')
      .ok ({ f with file := some path }, (skipBlanks rest).drop path.length)
    | text =>
      match leadingNumber text with
      | some (0, rest) => .error (.before "number option to `s' command may not be zero" rest)
      | some (n, rest) =>
        if f.first.isSome then .error (.before "multiple number options to `s' command" rest)
        else readFlags fuel rest { f with first := some n }
      | none => .ok (f, text)

/-- What may follow an action, and what is after that. -/
def afterAction (text : Octets) : Except Fault Octets :=
  match skipBlanks text with
  | [] => .ok []
  | ';' :: rest | '\n' :: rest => .ok rest
  | '}' :: rest => .ok ('}' :: rest)
  | '#' :: rest => .ok ('#' :: rest)
  | c :: rest =>
    if c == '\r' then .ok (skipSpaces text)
    else .error (.before "extra characters after command" rest)

/-- Reads a substitution. -/
def readSubstitution (extended : Bool) (text : Octets) : Except Fault (Action × Octets) :=
  match text with
  | [] => .error (.before "unterminated `s' command" [])
  | mark :: rest =>
    let pieces := do
      let (expression, rest) ← delimited true mark (rest.length + 1) false rest
      let (replacement, rest) ← delimited false mark (rest.length + 1) false rest
      return (expression, replacement, rest)
    match pieces with
    | none => .error (.before "unterminated `s' command" [])
    | some (expression, replacement, rest) => do
      let (f, rest) ← readFlags (rest.length + 1) rest {}
      let rest ← match afterAction rest with
        | .ok rest => pure rest
        | .error _ => .error (.at "unknown option to `s'" (skipBlanks rest))
      let search ← readSearch extended expression f.options rest
      let parts := replacementParts (replacement.length + 1) replacement
      let groups := match search.regex with
        | some r => r.groupCount
        | none => 9
      if groups < lastGroup parts then
        .error (.found ("invalid reference \\".toList ++ Octets.natural (lastGroup parts) ++
          " on `s' command's RHS".toList) rest.length)
      else
        return (.substitute ⟨search, parts, f.first.getD 1, f.all, f.prints, f.file⟩, rest)

/-- The bytes of a text in which a backslash keeps the next byte. -/
def plainBytes : Nat → Octets → Octets
  | 0, _ => []
  | fuel + 1, text =>
    match text with
    | '\\' :: 'n' :: rest => '\n' :: plainBytes fuel rest
    | '\\' :: rest =>
      match escapedByte? rest with
      | some (c, n) => c :: plainBytes fuel (rest.drop n)
      | none =>
        match rest with
        | c :: rest => c :: plainBytes fuel rest
        | [] => ['\\']
    | c :: rest => c :: plainBytes fuel rest
    | [] => []

/-- Reads a transliteration. -/
def readTransliteration (text : Octets) : Except Fault (Action × Octets) :=
  match text with
  | [] => .error (.before "unterminated `y' command" [])
  | mark :: rest =>
    let pieces := do
      let (source, rest) ← delimited false mark (rest.length + 1) false rest
      let (target, rest) ← delimited false mark (rest.length + 1) false rest
      return (source, target, rest)
    match pieces with
    | none => .error (.before "unterminated `y' command" [])
    | some (source, target, rest) => do
      let source := plainBytes (source.length + 1) source
      let target := plainBytes (target.length + 1) target
      if source.length ≠ target.length then
        .error (.before "strings for `y' command are different lengths" rest)
      else return (.transliterate (source.zip target), ← afterAction rest)

/-- The lines of a text up to the first one that no backslash at its end continues, and what
follows. -/
def continuedText : Nat → Octets → Octets × Octets
  | 0, text => ([], text)
  | fuel + 1, text =>
    match text with
    | [] => ([], [])
    | '\n' :: rest => ([], rest)
    | '\\' :: c :: rest =>
      let (found, after) := continuedText fuel rest
      (c :: found, after)
    | ['\\'] => ([], [])
    | c :: rest =>
      let (found, after) := continuedText fuel rest
      (c :: found, after)

/-- Reads the text of `a`, `i` and `c`. -/
def readText (text : Octets) : Except Fault (Octets × Octets) :=
  let found (body : Octets) : Except Fault (Octets × Octets) :=
    let (text, rest) := continuedText (body.length + 1) body
    .ok (text ++ ['\n'], rest)
  match skipBlanks text with
  | [] => .error (.before "expected \\ after `a', `c' or `i'" [])
  | ['\\'] => .ok ([], [])
  | '\\' :: rest =>
    match skipBlanks rest with
    | '\n' :: rest => if rest.isEmpty then .ok ([], []) else found rest
    | _ => found rest
  | body => found body

/-- A label or the path of a file: the rest of the line, for a label up to a semicolon. -/
def readName (isLabel : Bool) (text : Octets) : Octets × Octets :=
  let text := skipBlanks text
  let name := text.takeWhile fun c => c != '\n' && !(isLabel && (c == ';' || c == '}'))
  let trimmed := if isLabel then (name.reverse.dropWhile Octets.isSpace).reverse else name
  let rest := text.drop name.length
  (trimmed, if rest.head? == some '}' then rest else rest.drop 1)

/-- Reads an action other than a block. -/
def readAction (extended : Bool) (c : Char) (rest : Octets) : Except Fault (Action × Octets) :=
  let simple (a : Action) : Except Fault (Action × Octets) := do
    return (a, ← afterAction rest)
  let named (a : Octets → Action) : Except Fault (Action × Octets) :=
    let (path, rest) := readName false rest
    if path.isEmpty then .error (.before "missing filename in r/R/w/W commands" rest)
    else .ok (a path, rest)
  let labelled (a : Octets → Action) : Except Fault (Action × Octets) :=
    let (label, rest) := readName true rest
    .ok (a label, rest)
  let withText (a : Octets → Action) : Except Fault (Action × Octets) := do
    let (text, rest) ← readText rest
    return (a text, rest)
  let quitting (prints : Bool) : Except Fault (Action × Octets) := do
    let (status, rest) := (leadingNumber (skipBlanks rest)).getD (0, rest)
    return (.quit status prints, ← afterAction rest)
  match c with
  | '=' => simple .showNumber
  | 'a' => withText .append
  | 'i' => withText .insert
  | 'c' => withText .change
  | 'b' => labelled .jump
  | 't' => labelled .jumpIfReplaced
  | 'T' => labelled .jumpUnlessReplaced
  | 'd' => simple .delete
  | 'D' => simple .deleteFirst
  | 'F' => simple .showName
  | 'g' => simple .getHold
  | 'G' => simple .appendHold
  | 'h' => simple .putHold
  | 'H' => simple .appendToHold
  | 'x' => simple .exchange
  | 'l' => do
    let (_, rest) := (leadingNumber (skipBlanks rest)).getD (0, rest)
    return (.showEscaped, ← afterAction rest)
  | 'n' => simple .next
  | 'N' => simple .appendNext
  | 'p' => simple .print
  | 'P' => simple .printFirst
  | 'q' => quitting true
  | 'Q' => quitting false
  | 'r' => named .readFile
  | 'R' => named .readLine
  | 's' => readSubstitution extended rest
  | 'w' => named .writeFile
  | 'W' => named .writeFirst
  | 'y' => readTransliteration rest
  | 'z' => simple .clear
  | c => .error (.found ("unknown command: `".toList ++ [c, '\x27']) rest.length)

/-- Reads instructions; `blocks` are the numbers of the blocks that are open, and `count` is the
number of blocks so far. -/
def readInstructions (extended : Bool) : Nat → List Nat → Nat → Octets →
    Except Fault (List Instruction)
  | 0, _, _, _ => .ok []
  | fuel + 1, blocks, count, text =>
    match text.dropWhile fun c => Octets.isSpace c || c == ';' with
    | [] => if blocks.isEmpty then .ok [] else .error .unclosed
    | '#' :: rest =>
      readInstructions extended fuel blocks count (rest.dropWhile (· != '\n'))
    | text => do
      let (selector, rest) ← readSelector extended text
      match rest with
      | [] => .error (.before "missing command" [])
      | '{' :: rest =>
        let others ← readInstructions extended fuel (count :: blocks) (count + 1) rest
        return ⟨selector, .block count, none, none⟩ :: others
      | '}' :: rest =>
        match blocks, selector.first with
        | _, some _ => .error (.before "\x7d doesn't want any addresses" rest)
        | [], _ => .error (.before "unexpected `\x7d'" rest)
        | block :: blocks, none =>
          let rest ← afterAction rest
          let others ← readInstructions extended fuel blocks count rest
          return ⟨{}, .nothing, none, some block⟩ :: others
      | ':' :: rest =>
        let (label, after) := readName true rest
        if selector.first.isSome then .error (.before ": doesn't want any addresses" rest)
        else if label.isEmpty then .error (.before "\":\" lacks a label" rest)
        else
          let others ← readInstructions extended fuel blocks count after
          return ⟨{}, .nothing, some label, none⟩ :: others
      | c :: rest =>
        let (action, rest) ← readAction extended c rest
        let others ← readInstructions extended fuel blocks count rest
        return ⟨selector, action, none, none⟩ :: others

/-- The label to which an action may jump. -/
def Action.target? : Action → Option Octets
  | .jump label | .jumpIfReplaced label | .jumpUnlessReplaced label => some label
  | _ => none

/-- Reads a script. -/
def read (extended : Bool) (text : Octets) : Except Fault (List Instruction) := do
  let instructions ← readInstructions extended (text.length + 2) [] 0 text
  let labels := instructions.filterMap Instruction.label
  let targets := instructions.filterMap fun i => i.action.target?
  match targets.find? fun label => !label.isEmpty && !labels.contains label with
  | some label => .error (.noLabel label)
  | none => return instructions

end JsonShell.Interpreter.Edit
