import JsonShell.Text.Blank
import JsonShell.Text.Split
import JsonShell.Line.Token
import JsonShell.Variable.Reference

/-!
# Assignments

Three spellings bind a variable.  `set` and `let` take a name, perhaps after a dollar sign, and the
words of a value, perhaps after an equals sign of its own.  `NAME=VALUE`, perhaps after `export`,
takes the rest of the line as it is.  A dollar sign and a name in front of further words bind the
name to those words.  The spellings are tried in this order.
-/

set_option autoImplicit false

namespace JsonShell

/-- A variable and the value it is bound to. -/
structure Assignment where
  name : String
  value : String
deriving DecidableEq, Repr

namespace Assignment

/-- The text without a dollar sign in front. -/
def dropDollar (s : String) : String :=
  match s.toList with
  | '$' :: rest => String.ofList rest
  | _ => s

/-- Words with single spaces between them. -/
def joinWords (words : List String) : String :=
  Text.join " " words

/-- `set NAME [=] VALUE...`, after the first word. -/
def ofWords (name : String) (value : List String) : Assignment :=
  let value :=
    match value with
    | "=" :: second :: rest => second :: rest
    | words => words
  ⟨dropDollar name, joinWords value⟩

/-! ## The spelling with an equals sign -/

/-- The value after an equals sign: the rest of the line, without the blanks around it.  It may not
continue on a further line, and something other than a line break has to follow the sign. -/
def valueAfter? (cs : List Char) : Option (List Char) :=
  let body := cs.dropWhile isBlank
  if body.isEmpty then
    match cs.getLast? with
    | some c => if c = '\n' then none else some []
    | none => none
  else if body.contains '\n' then none
  else some (Text.trimChars body)

/-- A name, blanks, an equals sign and a value. -/
def binding? (cs : List Char) : Option (List Char × List Char) :=
  let name := Reference.leadingName cs
  if name.isEmpty then none
  else
    match (cs.drop name.length).dropWhile isBlank with
    | '=' :: rest => (valueAfter? rest).map fun value => (name, value)
    | _ => none

/-- What follows the word `export` and the blanks after it. -/
def afterExport? (cs : List Char) : Option (List Char) :=
  let word := "export".toList
  if word.isPrefixOf cs then
    match cs.drop word.length with
    | c :: rest => if isBlank c then some (rest.dropWhile isBlank) else none
    | [] => none
  else none

/-- `[export] NAME=VALUE`.  A variable may itself be called `export`. -/
def equation? (line : String) : Option Assignment :=
  let cs := line.toList.dropWhile isBlank
  let found :=
    match (afterExport? cs).bind binding? with
    | some b => some b
    | none => binding? cs
  found.map fun (name, value) => ⟨String.ofList name, String.ofList value⟩

/-! ## All spellings -/

/-- `$NAME VALUE...`. -/
def dollarWords? (first : String) (rest : List String) : Option Assignment :=
  match first.toList with
  | '$' :: name => if rest.isEmpty then none else some ⟨String.ofList name, joinWords rest⟩
  | _ => none

/-- The assignment that a line with these words is, if it is one. -/
def ofTokens? (line : String) (tokens : List String) : Option Assignment :=
  match tokens with
  | [] => none
  | first :: rest =>
    match rest with
    | name :: value@(_ :: _) =>
      if first = "set" ∨ first = "let" then some (ofWords name value)
      else
        match equation? line with
        | some a => some a
        | none => dollarWords? first rest
    | _ =>
      match equation? line with
      | some a => some a
      | none => dollarWords? first rest

/-- The assignment that a line is, if it is one. -/
def parse? (line : String) : Option Assignment :=
  ofTokens? line (tokenize line)

example : parse? "let $n = 1 2" = some ⟨"n", "1 2"⟩ := by decide +kernel
example : parse? "let n =" = some ⟨"n", "="⟩ := by decide +kernel
example : parse? "export  PATHS = a:b  " = some ⟨"PATHS", "a:b"⟩ := by decide +kernel
example : parse? "export = 5" = some ⟨"export", "5"⟩ := by decide +kernel
example : parse? "$target 192.168.1.1" = some ⟨"target", "192.168.1.1"⟩ := by decide +kernel
example : parse? "set only" = none ∧ parse? "$target" = none ∧ parse? "echo a=b" = none := by
  decide +kernel

end Assignment

end JsonShell
