import JsonShell.Interpreter.Reader.Word

/-!
# Tokens

A script is a row of tokens: words, signs between commands, redirections and line breaks.  Blanks
and comments between tokens say nothing.  `token` takes the next one, and `peekToken` looks at it
and puts it back.
-/

set_option autoImplicit false

namespace JsonShell.Interpreter

/-- The signs between commands, longer ones first. -/
def signs : List String :=
  ["&&", "||", ";;", ";", "&", "|", "(", ")"]

/-- The signs of redirections, longer ones first. -/
def redirectionSigns : List String :=
  ["<<-", "<<", "<&", "<>", "<", ">>", ">&", ">|", ">"]

/-- The first of the signs that a text starts with. -/
def signAt? (signs : List String) (text : Octets) : Option String :=
  signs.find? fun sign => sign.toList.isPrefixOf text

/-- Reads a redirection that starts here, with one digit in front of it at most. -/
def redirectionAt? (text : Octets) : Option (Option Nat × String) :=
  match text with
  | c :: rest =>
    match signAt? redirectionSigns text, c.isDigit with
    | some sign, _ => some (none, sign)
    | none, true => (signAt? redirectionSigns rest).map fun sign => (some (c.toNat - 48), sign)
    | none, false => none
  | [] => none

/-- Passes over blanks, joined lines and comments. -/
def skipBlanks : Nat → Scan Unit
  | 0 => pure ()
  | fuel + 1 => do
    Scan.joinLines
    match ← Scan.peek with
    | some '#' =>
      let _ ← Scan.takeWhile (· != '\n')
    | some c =>
      if Octets.isBlank c then
        Scan.skip
        skipBlanks fuel
    | none => pure ()

/-- Takes a token off the text. -/
def freshToken (commands : Scan Command) : Scan Token := do
  let fuel ← Scan.fuel
  skipBlanks fuel
  let text := (← get).rest
  match text with
  | [] => return .finish
  | c :: _ =>
    if c = '\n' then
      Scan.skip
      return .newline
    else
      match redirectionAt? text with
      | some (descriptor, sign) =>
        Scan.skipMany (sign.length + if descriptor.isSome then 1 else 0)
        return .redirection descriptor sign
      | none =>
        match signAt? signs text with
        | some sign =>
          Scan.skipMany sign.length
          return .sign sign
        | none => return .word (← parts commands fuel .word [])

/-- Takes the next token. -/
def token (commands : Scan Command) : Scan Token := do
  match (← get).ahead with
  | some t =>
    modify fun s => { s with ahead := none }
    return t
  | none => freshToken commands

/-- The next token, which stays. -/
def peekToken (commands : Scan Command) : Scan Token := do
  let t ← token commands
  modify fun s => { s with ahead := some t }
  return t

namespace Token

/-- The words that have a meaning of their own where a command may start. -/
def reservedWords : List String :=
  ["!", "case", "do", "done", "elif", "else", "esac", "fi", "for", "if", "in", "then", "until",
    "while", "\x7b", "\x7d"]

/-- The reserved word that a token is. -/
def reserved? : Token → Option String
  | .word w =>
    match w.plainText? with
    | some text => reservedWords.find? fun r => r.toList == text
    | none => none
  | _ => none

/-- A token that ends a list of commands. -/
def endsList (t : Token) : Bool :=
  match t with
  | .finish | .sign ")" | .sign ";;" => true
  | _ =>
    match t.reserved? with
    | some r => ["do", "done", "elif", "else", "esac", "fi", "then", "\x7d"].contains r
    | none => false

/-- The name of a token in messages. -/
def description (t : Token) : String :=
  match t with
  | .finish => "end of file"
  | .newline => "newline"
  | .sign text => "\"" ++ text ++ "\""
  | .redirection _ _ => "redirection"
  | .word _ =>
    match t.reserved? with
    | some r => "\"" ++ r ++ "\""
    | none => "word"

end Token

/-- Fails at a token that does not fit. -/
def unexpected {α : Type} (t : Token) : Scan α :=
  Scan.fail (t.description ++ " unexpected")

/-- Fails at a token in whose place another one has to stand. -/
def unexpectedFor {α : Type} (t : Token) (wanted : String) : Scan α :=
  Scan.fail (t.description ++ " unexpected (expecting \"" ++ wanted ++ "\")")

/-- Takes a reserved word, which has to be there. -/
def expect (commands : Scan Command) (wanted : String) : Scan Unit := do
  let t ← token commands
  if t.reserved? ≠ some wanted then unexpectedFor t wanted

/-- Takes a sign, which has to be there. -/
def expectSign (commands : Scan Command) (wanted : String) : Scan Unit := do
  match ← token commands with
  | .sign text => if text ≠ wanted then unexpectedFor (.sign text) wanted
  | t => unexpectedFor t wanted

/-- Passes over line breaks. -/
def skipNewlines (commands : Scan Command) : Nat → Scan Unit
  | 0 => pure ()
  | fuel + 1 => do
    match ← peekToken commands with
    | .newline =>
      let _ ← token commands
      skipNewlines commands fuel
    | _ => pure ()

/-- Passes over line breaks. -/
def linebreak (commands : Scan Command) : Scan Unit := do
  skipNewlines commands (← Scan.fuel)

end JsonShell.Interpreter
