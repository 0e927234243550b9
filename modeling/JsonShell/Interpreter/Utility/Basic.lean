import JsonShell.Interpreter.Redirection

/-!
# Utilities

A *utility* is a program that scripts count on.  It reads its options and operands, works on texts
and files, says what is wrong under its own name, and ends with a status.  Options may stand among
the operands; they have one letter, or a long name that stands for a letter.

Utilities stand in for the programs of a base system, as far as scripts use them.
-/

set_option autoImplicit false

namespace JsonShell.Interpreter

/-- What a utility does with its arguments. -/
abbrev Utility := Engine → List Octets → Shell Nat

/-- The options that a utility knows: letters, with a colon after those that take a value, and long
names. -/
structure Grammar where
  letters : String
  names : List (String × Char) := []

/-- Options and operands of a utility. -/
structure Call where
  options : List (Char × Octets)
  operands : List Octets

namespace Call

/-- An option was given. -/
def has (c : Call) (letter : Char) : Bool :=
  c.options.any fun o => o.1 == letter

/-- The value of the last option with a letter. -/
def value? (c : Call) (letter : Char) : Option Octets :=
  (c.options.reverse.find? fun o => o.1 == letter).map Prod.snd

/-- The values of all options with a letter. -/
def values (c : Call) (letter : Char) : List Octets :=
  (c.options.filter fun o => o.1 == letter).map Prod.snd

/-- Of some letters the one that was given last. -/
def last? (c : Call) (letters : List Char) : Option Char :=
  (c.options.reverse.find? fun o => letters.contains o.1).map Prod.fst

end Call

namespace Grammar

/-- A letter takes a value; `none` if it is not known. -/
def takesValue? (g : Grammar) (letter : Char) : Option Bool :=
  match g.letters.toList.dropWhile (· != letter) with
  | [] => none
  | _ :: ':' :: _ => some true
  | _ => some false

/-- The letter of a long name, which may be cut short. -/
def letterOf? (g : Grammar) (name : Octets) : Option Char :=
  match g.names.lookup (Octets.key name) with
  | some letter => some letter
  | none =>
    match g.names.filter fun n => name.isPrefixOf n.1.toList with
    | [(_, letter)] => some letter
    | _ => none

/-- Reads the letters of one argument. -/
def readLetters (g : Grammar) : Octets → List Octets →
    Except Octets (List (Char × Octets) × List Octets)
  | [], rest => .ok ([], rest)
  | c :: more, rest =>
    match g.takesValue? c with
    | none => .error ("invalid option -- '".toList ++ [c, '\''])
    | some true =>
      match more, rest with
      | [], value :: rest => .ok ([(c, value)], rest)
      | [], [] => .error ("option requires an argument -- '".toList ++ [c, '\''])
      | value, rest => .ok ([(c, value)], rest)
    | some false => do
      let (given, rest) ← readLetters g more rest
      return ((c, []) :: given, rest)

/-- Reads a long option. -/
def readName (g : Grammar) (text : Octets) (rest : List Octets) :
    Except Octets ((Char × Octets) × List Octets) :=
  let name := text.takeWhile (· != '=')
  let value := text.drop name.length
  match g.letterOf? name with
  | none => .error ("unrecognized option '--".toList ++ name ++ ['\''])
  | some letter =>
    match g.takesValue? letter, value, rest with
    | some true, _ :: value, rest => .ok ((letter, value), rest)
    | some true, [], value :: rest => .ok ((letter, value), rest)
    | some true, [], [] =>
      .error ("option '--".toList ++ name ++ "' requires an argument".toList)
    | _, [], rest => .ok ((letter, []), rest)
    | _, _ :: _, _ => .error ("option '--".toList ++ name ++ "' doesn't allow an argument".toList)

/-- Reads options among operands, or up to the first operand if `ordered`. -/
def read (g : Grammar) (ordered : Bool) : Nat → List Octets → Except Octets Call
  | 0, args => .ok ⟨[], args⟩
  | fuel + 1, args =>
    match args with
    | [] => .ok ⟨[], []⟩
    | ['-', '-'] :: rest => .ok ⟨[], rest⟩
    | ('-' :: '-' :: name) :: rest => do
      let (option, rest) ← g.readName name rest
      let c ← g.read ordered fuel rest
      return { c with options := option :: c.options }
    | ('-' :: letter :: more) :: rest => do
      let (given, rest) ← g.readLetters (letter :: more) rest
      let c ← g.read ordered fuel rest
      return { c with options := given ++ c.options }
    | arg :: rest =>
      if ordered then .ok ⟨[], arg :: rest⟩
      else do
        let c ← g.read ordered fuel rest
        return { c with operands := arg :: c.operands }

end Grammar

namespace Utility

open Shell

/-- Says what is wrong. -/
def say (name : String) (text : Octets) : Shell Unit :=
  write 2 (name.toList ++ ": ".toList ++ text ++ ['\n'])

/-- A text in the quotes of messages. -/
def quoted (text : Octets) : Octets :=
  '\'' :: text ++ ['\'']

/-- What is said about a fault of a file. -/
def faultText : FileFault → String
  | .notFound => "No such file or directory"
  | .alreadyExists => "File exists"
  | .notDirectory => "Not a directory"
  | .isDirectory => "Is a directory"
  | .notEmpty => "Directory not empty"
  | .nameTooLong => "File name too long"
  | .nulByte | .notUtf8 | .other _ => "Invalid argument"

/-- Says that something about a path went wrong. -/
def sayFault (name : String) (path : Octets) (fault : FileFault) : Shell Unit :=
  say name (path ++ ": ".toList ++ (faultText fault).toList)

/-- Runs a utility on its options and operands; wrong options end it with a status. -/
def withCall (name : String) (g : Grammar) (wrong : Nat) (ordered : Bool) (args : List Octets)
    (run : Call → Shell Nat) : Shell Nat := do
  match g.read ordered (args.length + 1) args with
  | .ok c => run c
  | .error message =>
    say name message
    write 2 ("Try '" ++ name ++ " --help' for more information.\n").toList
    return wrong

/-- The path stands for the standard input. -/
def isInput (path : Octets) : Bool :=
  path = ['-'] || path = "/dev/stdin".toList

/-- The text of a file or a device. -/
def textIn (t : FileTree) (path : Octets) : Except FileFault Octets :=
  match String.ofList path with
  | "/dev/null" => .ok []
  | "/dev/zero" => .ok zeros
  | _ => (t.read (pathOf path)).map Octets.ofBytes

/-- The text of a file, or of the standard input for a dash.  A file that cannot be read is told. -/
def textAt? (name : String) (path : Octets) : Shell (Option Octets) := do
  if isInput path then
    match ← readAll? 0 with
    | some text => return some text
    | none =>
      say name "-: Bad file descriptor".toList
      return none
  else
    match textIn (← files) path with
    | .ok text => return some text
    | .error fault =>
      sayFault name path fault
      return none

/-- The texts of files, or of the standard input if none is named, and whether all were read. -/
def textsAt (name : String) (paths : List Octets) : Shell (List (Octets × Octets) × Bool) := do
  let paths := if paths.isEmpty then [['-']] else paths
  let texts ← paths.mapM fun path => do
    return (path, ← textAt? name path)
  let found := texts.filterMap fun (path, text) => text.map fun t => (path, t)
  return (found, found.length = paths.length)

/-- Says that a utility has been used in a wrong way, and where to look that up. -/
def misuse (name : String) (text : Octets) (status : Nat) : Shell Nat := do
  say name text
  write 2 ("Try '" ++ name ++ " --help' for more information.\n").toList
  return status

/-- The status of success or failure. -/
def statusOf (success : Bool) : Nat :=
  if success then 0 else 1

/-- Does something for each of some operands, and tells whether all went well. -/
def forAll (operands : List Octets) (action : Octets → Shell Bool) : Shell Bool := do
  let results ← operands.mapM action
  return results.all id

/-- The descriptor stands for a file, so that places in it can be gone back to. -/
def isSeekable (descriptor : Nat) : Shell Bool := do
  match ← streamOf? descriptor with
  | none => return false
  | some n =>
    match (← world).streams[n]? with
    | some (.file ..) => return true
    | _ => return false

/-- How much of a pipe is read at once. -/
def blockSize : Nat := 8192

/-- Reads a part from the front of the standard input.  Of a pipe whole blocks are read. -/
def readPart? (size : Octets → Nat) : Shell (Option Octets) := do
  match ← unread? 0 with
  | none => return none
  | some (rest, consume) =>
    let count := size rest
    let blocks := (count + blockSize - 1) / blockSize * blockSize
    consume (if ← isSeekable 0 then min count rest.length else min blocks rest.length)
    return some (rest.take count)

/-- Lines with a note on whether the last one has its line break. -/
structure Lines where
  lines : List Octets
  isWhole : Bool

/-- The lines of a text. -/
def linesOf (text : Octets) : Lines :=
  ⟨Octets.lines text, text.isEmpty || text.getLast? == some '\n'⟩

/-- The text of lines. -/
def Lines.text (l : Lines) : Octets :=
  if l.isWhole then Octets.unlines l.lines else (['\n'] : Octets).intercalate l.lines

/-- The lines of a text, each with its line break; the last one may have none. -/
def brokenLines (text : Octets) : List Octets :=
  let l := linesOf text
  match l.isWhole, l.lines.getLast? with
  | false, some last => l.lines.dropLast.map (· ++ ['\n']) ++ [last]
  | _, _ => l.lines.map (· ++ ['\n'])

/-- A text filled up with blanks in front of it. -/
def padLeft (width : Nat) (text : Octets) : Octets :=
  List.replicate (width - text.length) ' ' ++ text

/-- A text filled up with blanks after it. -/
def padRight (width : Nat) (text : Octets) : Octets :=
  text ++ List.replicate (width - text.length) ' '

/-- The value of a letter that stands for thousands or a power of 1024. -/
def multiplier? (suffix : Octets) : Option Nat :=
  match Octets.key suffix with
  | "" => some 1
  | "b" => some 512
  | "kB" => some 1000
  | "k" | "K" | "KiB" => some 1024
  | "MB" => some 1000000
  | "m" | "M" | "MiB" => some 1048576
  | "GB" => some 1000000000
  | "G" | "GiB" => some 1073741824
  | _ => none

/-- A number of lines or bytes. -/
def amount? (text : Octets) : Option Nat :=
  let digits := text.takeWhile Char.isDigit
  if digits.isEmpty then none
  else (multiplier? (text.drop digits.length)).map (· * digitsValue 10 digits)

end Utility

end JsonShell.Interpreter
