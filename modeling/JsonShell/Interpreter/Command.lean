import JsonShell.Interpreter.Octets
import JsonShell.Variable.Reference

/-!
# Commands of module scripts

A module script is a text of commands in the language of the POSIX shell.  A command is *simple*, a
list of words perhaps with assignments and redirections, or it puts commands together: one after the
other, in pipelines, conditionals and loops.  A word is made of characters and of parts that are
worked out when the command runs: values of parameters, what commands print, and arithmetic.
-/

set_option autoImplicit false

namespace JsonShell.Interpreter

/-- What a value is taken from. -/
inductive Parameter where
  | named (name : String)
  /-- An argument; number 0 is the script itself. -/
  | position (n : Nat)
  /-- The number of arguments. -/
  | count
  /-- All arguments in one. -/
  | joined
  /-- All arguments, one after the other. -/
  | each
  /-- The number of the shell's process. -/
  | process
  /-- The status of the last command. -/
  | status
  /-- The number of the last command that was sent to the background. -/
  | job
  /-- The letters of the options that are on. -/
  | options
deriving DecidableEq, Repr

/-- What a word beside a parameter is for. -/
inductive Fallback where
  /-- It stands in for a missing value. -/
  | value
  /-- It becomes the value of a parameter without one. -/
  | assigned
  /-- It is the message with which the script ends if there is no value. -/
  | complaint
  /-- It stands in for a value that there is. -/
  | replacement
deriving DecidableEq, Repr

/-- How a file is opened. -/
inductive OpenMode where
  | reading
  /-- Writing, from the start of an empty file. -/
  | writing
  /-- The same, whatever the shell's options say about files that exist. -/
  | overwriting
  | appending
  | both
deriving DecidableEq, Repr

mutual

/-- A part of a word. -/
inductive Part where
  /-- A character that stands there as it is. -/
  | plain (c : Char)
  /-- A character that is kept by a quote. -/
  | literal (c : Char)
  /-- What stands between quotes. -/
  | quoted (parts : List Part)
  | value (parameter : Parameter) (operation : Operation)
  /-- What a command prints. -/
  | output (command : Command)
  /-- The value of an arithmetic expression. -/
  | arithmetic (expression : List Part)

/-- What is done with the value of a parameter. -/
inductive Operation where
  | none
  | length
  | fallback (kind : Fallback) (ifEmpty : Bool) (word : List Part)
  /-- Takes what a pattern matches off the start or the end. -/
  | trim (atEnd longest : Bool) (pattern : List Part)
  /-- The braces hold what is no operation. -/
  | invalid

/-- A change to what the descriptors of a command stand for. -/
inductive Redirection where
  | file (descriptor : Nat) (mode : OpenMode) (path : List Part)
  /-- The descriptor stands for what another one stands for, or for nothing. -/
  | copy (descriptor : Nat) (source : List Part)
  /-- The descriptor reads a text of the script. -/
  | text (descriptor : Nat) (body : List Part)

/-- A command. -/
inductive Command where
  | simple (line : Nat) (assignments : List (String × List Part)) (words : List (List Part))
      (redirections : List Redirection)
  | redirected (line : Nat) (command : Command) (redirections : List Redirection)
  | sequence (commands : List Command)
  | both (first second : Command)
  | either (first second : Command)
  | negated (command : Command)
  | pipeline (commands : List Command)
  | background (command : Command)
  | subshell (line : Nat) (command : Command)
  | conditional (test success failure : Command)
  | loop (whileFailing : Bool) (test body : Command)
  /-- A loop over words, or over the arguments. -/
  | each (line : Nat) (name : String) (words : Option (List (List Part))) (body : Command)
  /-- Runs the command of the first arm that has a matching pattern. -/
  | choice (line : Nat) (subject : List Part) (arms : List (List (List Part) × Command))
  | definition (line : Nat) (name : String) (body : Command)

end

/-- A word is its parts in order. -/
abbrev Word := List Part

/-- The command that does nothing. -/
def Command.nothing : Command := .sequence []

instance : Inhabited Command := ⟨.nothing⟩

/-- A text that is a name. -/
def isName : Octets → Bool
  | [] => false
  | c :: rest => isNameStart c && rest.all isNameChar

namespace Word

/-- The unquoted characters that a word starts with. -/
def plainStart : Word → Octets
  | .plain c :: rest => c :: plainStart rest
  | _ => []

/-- The text of a word that has nothing but unquoted characters. -/
def plainText? (w : Word) : Option Octets :=
  let text := plainStart w
  if text.length = w.length then some text else none

/-- The name and the value of a word that is an assignment. -/
def assignment? (w : Word) : Option (String × Word) :=
  let plain := plainStart w
  let name := plain.takeWhile isNameChar
  if isName name && (plain.drop name.length).head? == some '=' then
    some (Octets.key name, w.drop (name.length + 1))
  else none

end Word

end JsonShell.Interpreter
