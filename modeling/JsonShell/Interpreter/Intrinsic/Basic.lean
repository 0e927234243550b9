import JsonShell.Interpreter.Child

/-!
# Commands of the shell itself

An *intrinsic* command is carried out by the shell and not by a program.  It gets its arguments and
gives a status.  Failures of a special one end the shell; those of others end just the command.
-/

set_option autoImplicit false

namespace JsonShell.Interpreter

/-- A command that the shell carries out itself. -/
structure Intrinsic where
  run : Engine → List Octets → Shell Nat
  /-- A failure ends the shell, and assignments in front of the command last. -/
  isSpecial : Bool
  /-- Arguments that are assignments are kept whole. -/
  assigns : Bool

namespace Intrinsic

/-- A command whose failures end just the command. -/
def regular (run : Engine → List Octets → Shell Nat) : Intrinsic :=
  ⟨run, false, false⟩

/-- A command whose failures end the shell. -/
def special (run : Engine → List Octets → Shell Nat) : Intrinsic :=
  ⟨run, true, false⟩

/-- A command whose arguments may be assignments. -/
def declaring (run : Engine → List Octets → Shell Nat) : Intrinsic :=
  ⟨run, true, true⟩

end Intrinsic

/-- Options and the arguments after them. -/
structure Options where
  given : List (Char × Octets)
  rest : List Octets

namespace Options

/-- An option was given. -/
def has (o : Options) (letter : Char) : Bool :=
  o.given.any fun g => g.1 == letter

/-- The value of the last option with a letter. -/
def value? (o : Options) (letter : Char) : Option Octets :=
  (o.given.reverse.find? fun g => g.1 == letter).map Prod.snd

/-- Reads the letters of one argument.  A letter with a colon after it in `letters` takes the rest
of the argument, or the next argument. -/
def readLetters (letters : Octets) : Octets → List Octets →
    Except Octets (List (Char × Octets) × List Octets)
  | [], rest => .ok ([], rest)
  | c :: more, rest =>
    match letters.dropWhile (· != c) with
    | [] => .error ("Illegal option -".toList ++ [c])
    | _ :: ':' :: _ =>
      match more, rest with
      | [], value :: rest => .ok ([(c, value)], rest)
      | [], [] => .error ("No arg for -".toList ++ [c] ++ " option".toList)
      | value, rest => .ok ([(c, value)], rest)
    | _ => do
      let (given, rest) ← readLetters letters more rest
      return ((c, []) :: given, rest)

/-- Reads options from the start of arguments. -/
def read (letters : Octets) : Nat → List Octets → Except Octets Options
  | 0, args => .ok ⟨[], args⟩
  | fuel + 1, args =>
    match args with
    | ['-', '-'] :: rest => .ok ⟨[], rest⟩
    | ('-' :: c :: more) :: rest => do
      let (given, rest) ← readLetters letters (c :: more) rest
      let o ← read letters fuel rest
      return { o with given := given ++ o.given }
    | args => .ok ⟨[], args⟩

end Options

namespace Shell

/-- The options of a command and the arguments after them. -/
def options (letters : String) (args : List Octets) : Shell Options :=
  match Options.read letters.toList (args.length + 1) args with
  | .ok o => pure o
  | .error message => failWith message

/-- The natural number that an argument is. -/
def naturalOf (arg : Octets) : Shell Nat :=
  match natural? arg with
  | some n => if (n : Int) ≤ 2147483647 then pure n else failWith ("Illegal number: ".toList ++ arg)
  | none => failWith ("Illegal number: ".toList ++ arg)

/-- A text in quotes, so that it reads as itself. -/
def quote (text : Octets) : Octets :=
  if text.isEmpty then "''".toList else pieces (text.length + 1) text
where
  /-- The text as pieces in quotes; quotes of one kind stand in quotes of the other kind. -/
  pieces : Nat → Octets → Octets
    | 0, _ => []
    | _ + 1, [] => []
    | fuel + 1, text =>
      let plain := text.takeWhile (· != '\'')
      let after := text.drop plain.length
      let marks := after.takeWhile (· == '\'')
      let first := if plain.isEmpty then [] else '\'' :: plain ++ ['\'']
      let second := if marks.isEmpty then [] else '"' :: marks ++ ['"']
      first ++ second ++ pieces fuel (after.drop marks.length)

/-- Writes a line on the output. -/
def print (text : Octets) : Shell Unit :=
  write 1 (text ++ ['\n'])

/-- The name and the value of an argument that may be an assignment. -/
def declaration (arg : Octets) : Octets × Option Octets :=
  let name := arg.takeWhile (· != '=')
  match arg.drop name.length with
  | _ :: value => (name, some value)
  | [] => (name, none)

/-- Fails unless a text can name a variable. -/
def checkName (name : Octets) : Shell Unit := do
  if !isName name then failWith (name ++ ": bad variable name".toList)

end Shell

end JsonShell.Interpreter
