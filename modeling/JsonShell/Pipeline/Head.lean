import JsonShell.Decimal.Literal
import JsonShell.Loop.Source
import JsonShell.Record

/-!
# Heads of pipelines

The first segment of a pipeline is a literal or a module call.  Literals are bracketed lists of
words, quoted texts, and numbers; a number with an integer value is an integer.  Everything else is
a command, whose first word names the module.
-/

set_option autoImplicit false

namespace JsonShell

/-- The first segment of a pipeline. -/
inductive Head where
  /-- No command at all. -/
  | empty
  /-- A record that needs no module. -/
  | literal (record : Record)
  /-- A module and its arguments, not expanded. -/
  | command (name : String) (args : List String)
deriving DecidableEq

namespace Head

/-- The number that a text denotes: a float literal first, then an integer. -/
def number? (text : String) : Option Number :=
  match Decimal.finite? text with
  | some x => some (.ofBinary64 x)
  | none => (Numeral.integer? text).map .integer

/-- The head that words make: the first one is the module. -/
def ofWords : List String → Head
  | [] => .empty
  | name :: args => .command name args

/-- The head that a segment is. -/
def parse (segment : String) : Head :=
  let text := Text.trim segment
  if text = "" then .empty
  else
    match bracketed? text with
    | some words => .literal (.success (.list (words.map .string)))
    | none =>
      let inner := unquote text
      if inner ≠ text then .literal (.success (.string inner))
      else
        match number? text with
        | some n => .literal (.success (.number n))
        | none => ofWords (tokenize text)

example : parse " [1 \"x y\"] " = .literal (.success (.list [.string "1", .string "x y"])) := by
  decide +kernel
example : parse "'a|b'" = .literal (.success (.string "a|b")) := by decide +kernel
example : parse "42" = .literal (.success (.ofInt 42)) := by decide +kernel
example : parse "inf" = .command "inf" [] := by decide +kernel
example : parse "whois $d \"a b\"" = .command "whois" ["$d", "a b"] := by decide +kernel

end Head

end JsonShell
