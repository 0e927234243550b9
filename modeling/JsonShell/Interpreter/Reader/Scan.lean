import JsonShell.Dictionary
import JsonShell.Interpreter.Command

/-!
# Reading a script

A script is read from its text, from left to right.  A `Scan` takes something off the front of what
is left, or fails with a message and the line of the failure.  One token may be put back, to be
taken again.
-/

set_option autoImplicit false

namespace JsonShell.Interpreter

/-- What commands are made of. -/
inductive Token where
  | word (w : Word)
  /-- A sign between commands. -/
  | sign (text : String)
  /-- The sign of a redirection, with the descriptor in front of it. -/
  | redirection (descriptor : Option Nat) (sign : String)
  | newline
  | finish

/-- What is left of a script. -/
structure Source where
  rest : Octets
  /-- More steps than a reader needs to get to the end of the text. -/
  bound : Nat
  /-- The number of the line that `rest` starts in. -/
  line : Nat
  /-- The number of lines that have been taken out of the text after this line. -/
  takenLines : Nat
  /-- A token that was put back. -/
  ahead : Option Token
  /-- Words that stand for other texts. -/
  aliases : Dictionary Octets
  /-- Aliases whose text is being read, with what is left of the text after it. -/
  inAliases : List (String × Nat)

namespace Source

/-- More steps than a reader needs to get to the end of a text. -/
def boundOf (text : Octets) : Nat :=
  2 * text.length + 10

/-- A text to be read. -/
def ofText (text : Octets) (line : Nat) (aliases : Dictionary Octets) : Source :=
  ⟨text, boundOf text, line, 0, none, aliases, []⟩

/-- The source without its first character. -/
def advance (s : Source) : Source :=
  match s.rest with
  | [] => s
  | c :: rest =>
    if c = '\n' then { s with rest := rest, line := s.line + 1 + s.takenLines, takenLines := 0 }
    else { s with rest := rest }

/-- The source without the backslashes that join its first lines. -/
def joinLines : Nat → Source → Source
  | 0, s => s
  | fuel + 1, s =>
    match s.rest with
    | '\\' :: '\n' :: rest => joinLines fuel { s with rest := rest, line := s.line + 1 }
    | _ => s

end Source

/-- Why a script cannot be read. -/
structure SyntaxFault where
  line : Nat
  message : String
deriving DecidableEq, Repr

/-- Takes something off the front of a source. -/
abbrev Scan := StateT Source (Except SyntaxFault)

namespace Scan

/-- Gives up. -/
def fail {α : Type} (message : String) : Scan α := do
  throw ⟨(← get).line, message⟩

/-- The next character, which stays. -/
def peek : Scan (Option Char) := do
  return (← get).rest.head?

/-- Passes over a character. -/
def skip : Scan Unit :=
  modify Source.advance

/-- Passes over as many characters. -/
def skipMany : Nat → Scan Unit
  | 0 => pure ()
  | n + 1 => do
    skip
    skipMany n

/-- Passes over backslashes at the end of a line. -/
def joinLines : Scan Unit :=
  modify fun s => s.joinLines s.rest.length

/-- The characters that have a property, up to the first one that has not. -/
def takeWhile (p : Char → Bool) : Scan Octets := do
  let taken := (← get).rest.takeWhile p
  skipMany taken.length
  return taken

/-- Reads another text and comes back to this one. -/
def within {α : Type} (text : Octets) (line : Nat) (inner : Scan α) : Scan α := do
  let s ← get
  set (Source.ofText text line s.aliases)
  let a ← inner
  set s
  return a

/-- More steps than a reader needs from here on. -/
def fuel : Scan Nat := do
  return (← get).bound

end Scan

end JsonShell.Interpreter
