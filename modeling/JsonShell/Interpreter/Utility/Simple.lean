import JsonShell.Interpreter.Intrinsic.Files
import JsonShell.Interpreter.Utility.Basic

/-!
# Simple utilities

Utilities that print their arguments, ask a question, or tell something about the system.  As
programs `echo`, `printf` and `test` differ a little from the commands of the shell: `echo` has
options, and hexadecimal escapes are known.
-/

set_option autoImplicit false

namespace JsonShell.Interpreter.Utility

open Shell

/-! ## Printing -/

/-- Writes hexadecimal escapes in octal digits. -/
def octalEscapes : Nat → Octets → Octets
  | 0, text => text
  | fuel + 1, text =>
    match text with
    | '\\' :: 'x' :: rest =>
      let digits := (rest.takeWhile (isDigitOf 16)).take 2
      if digits.isEmpty then '\\' :: 'x' :: octalEscapes fuel rest
      else
        let octal := Nat.toDigits 8 (digitsValue 16 digits)
        '\\' :: List.replicate (3 - octal.length) '0' ++ octal ++
          octalEscapes fuel (rest.drop digits.length)
    | '\\' :: c :: rest => '\\' :: c :: octalEscapes fuel rest
    | c :: rest => c :: octalEscapes fuel rest
    | [] => []

/-- The options at the start of the arguments of `echo`: it ends the line, and it knows escapes. -/
def echoOptions (endsLine escapes : Bool) : List Octets → Bool × Bool × List Octets
  | [] => (endsLine, escapes, [])
  | arg :: rest =>
    match arg with
    | '-' :: letters =>
      if letters.isEmpty || !letters.all (fun c => c == 'n' || c == 'e' || c == 'E') then
        (endsLine, escapes, arg :: rest)
      else
        let last := (letters.reverse.find? fun c => c != 'n').map fun c => c == 'e'
        echoOptions (endsLine && !letters.contains 'n') (last.getD escapes) rest
    | _ => (endsLine, escapes, arg :: rest)

/-- `echo`. -/
def echo : Utility := fun _ args => do
  let (endsLine, escapes, words) := echoOptions true false args
  let ending := if endsLine then ['\n'] else []
  let text :=
    if escapes then echoArgs ending (words.map fun w => octalEscapes (w.length + 1) w)
    else [' '].intercalate words ++ ending
  write 1 text
  return 0

/-- `printf`. -/
def printf : Utility := fun _ args => do
  match if args.head? == some ['-', '-'] then args.drop 1 else args with
  | [] => misuse "printf" "missing operand".toList 1
  | format :: args =>
    let printed := Interpreter.printf (octalEscapes (format.length + 1) format) args
    write 1 printed.text
    printed.complaints.forM fun (arg, fault) =>
      say "printf" (quoted arg ++ (match fault with
        | .notNumeric => ": expected a numeric value"
        | .notConverted => ": value not completely converted"
        | .outOfRange => ": Numerical result out of range").toList)
    match printed.failure with
    | some fault =>
      say "printf" ((match fault with
        | .missingLetter => ['%']
        | .unknown directive => directive) ++ ": invalid conversion specification".toList)
      return 1
    | none => return statusOf printed.complaints.isEmpty

/-- Repeats a text until it is longer than a pipe. -/
def manyTimes (text : Octets) : Octets :=
  (List.replicate (pipeLimit / text.length + 1) text).flatten

/-- `yes`. -/
def yes : Utility := fun _ args => do
  let args := if args.head? == some ['-', '-'] then args.drop 1 else args
  let words := if args.isEmpty then [['y']] else args
  write 1 (manyTimes ([' '].intercalate words ++ ['\n']))
  throw (.killed Signal.pipe)

/-! ## Questions -/

/-- `test`. -/
def test : Utility := fun _ args => do
  match Condition.holds (← probe) args with
  | .ok answer => return statusOf answer
  | .error message =>
    let wrong := "Illegal number: ".toList
    say "test" (if wrong.isPrefixOf message then
      "invalid integer ".toList ++ quoted (message.drop wrong.length) else message)
    return 2

/-- `[`. -/
def bracket : Utility := fun engine args => do
  if args.getLast? = some [']'] then test engine args.dropLast
  else
    say "[" "missing ']'".toList
    return 2

/-- `cmp`. -/
def cmp : Utility := fun _ args =>
  withCall "cmp" ⟨"bi:ln:s", [("silent", 's'), ("quiet", 's')]⟩ 2 false args fun c => do
    let second := (c.operands[1]?).getD ['-']
    match c.operands with
    | [] => misuse "cmp" "missing operand after 'cmp'".toList 2
    | first :: _ =>
      match ← textAt? "cmp" first, ← textAt? "cmp" second with
      | some a, some b =>
        if a == b then return 0
        else
          let same := ((a.zip b).takeWhile fun p => p.1 == p.2).length
          if !c.has 's' then
            if same = a.length || same = b.length then
              let shorter := if same = a.length then first else second
              let isWhole := (a.take same).getLast? == some '\n'
              let line := (a.take same).count '\n' + (if isWhole then 0 else 1)
              say "cmp" ("EOF on ".toList ++ shorter ++
                (if same = 0 then " which is empty".toList
                  else " after byte ".toList ++ Octets.natural same ++
                    (if isWhole then ", line " else ", in line ").toList ++
                    Octets.natural line))
            else
              let line := (a.take same).count '\n' + 1
              write 1 (first ++ ' ' :: second ++ " differ: char ".toList ++
                Octets.natural (same + 1) ++ ", line ".toList ++ Octets.natural line ++ ['\n'])
          return 1
      | _, _ => return 2

/-! ## The system -/

/-- A utility that prints one line. -/
def telling (text : String) : Utility := fun _ _ => do
  write 1 (text ++ "\n").toList
  return 0

/-- `pwd`. -/
def pwd : Utility := fun _ _ => do
  write 1 (placeText (← process).directory ++ ['\n'])
  return 0

/-- `id`. -/
def idOf : Utility := fun _ args =>
  withCall "id" ⟨"agGnruz", [("user", 'u'), ("group", 'g'), ("name", 'n')]⟩ 1 false args fun c => do
    let text :=
      if c.has 'n' then "root"
      else if c.has 'u' || c.has 'g' || c.has 'G' then "0"
      else "uid=0(root) gid=0(root) groups=0(root)"
    write 1 (text ++ "\n").toList
    return 0

/-- `uname`. -/
def uname : Utility := fun _ args =>
  withCall "uname" ⟨"asnrvmpio", [("kernel-name", 's'), ("machine", 'm'), ("all", 'a')]⟩ 1 false
    args fun c => do
    let parts : List (Char × String) :=
      [('s', "Linux"), ('n', "localhost"), ('r', "6.1.0"), ('v', "#1 SMP"), ('m', "x86_64"),
        ('o', "GNU/Linux")]
    let chosen := parts.filter fun p =>
      c.has p.1 || c.has 'a' || (c.options.isEmpty && p.1 == 's')
    write 1 ([' '].intercalate (chosen.map fun p => p.2.toList) ++ ['\n'])
    return 0

/-- `realpath` and `readlink`. -/
def realPath (name : String) (always : Bool) : Utility := fun _ args =>
  withCall name ⟨"efmqsn", []⟩ 1 false args fun c => do
    if c.operands.isEmpty then misuse name "missing operand".toList 1
    else
      let t ← files
      statusOf <$> forAll c.operands fun path => do
        if !always && !(c.has 'f' || c.has 'e' || c.has 'm') then return false
        else
          let place : Except FileFault Place := match t.find (pathOf path) with
            | .ok (place, _) => .ok place
            | .error fault =>
              if c.has 'e' then .error fault
              else (t.target (pathOf path)).map fun (place, name) => place ++ [name]
          match place with
          | .ok place =>
            write 1 (placeText place ++ (if c.has 'n' then [] else ['\n']))
            return true
          | .error fault =>
            if always then sayFault name path fault
            return false

end JsonShell.Interpreter.Utility
