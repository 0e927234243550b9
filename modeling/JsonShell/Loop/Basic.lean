import JsonShell.Loop.Body
import JsonShell.Loop.Header
import JsonShell.Loop.Source

/-!
# Loops

A line is a loop if it starts with the header of one and ends with the brace that closes its body,
blanks aside.  A loop is read before its source is known: the variables in the source are expanded
when the loop runs, and only then are its values computed.
-/

set_option autoImplicit false

namespace JsonShell

/-- What a loop runs over. -/
inductive LoopKind where
  /-- The values of a range. -/
  | counted
  /-- The items of a list. -/
  | listed
deriving DecidableEq, Repr

/-- A loop whose source has not been evaluated. -/
structure Loop where
  kind : LoopKind
  source : String
  var : String
  body : List String
deriving DecidableEq, Repr

namespace Loop

/-- The header of a line and the kind of its loop. -/
def header? (cs : List Char) : Option (LoopKind × Header.Parts) :=
  match Header.counted? cs with
  | some parts => some (.counted, parts)
  | none => (Header.listed? cs).map fun parts => (.listed, parts)

/-- The loop that a line is, if it is one. -/
def parse? (line : String) : Option Loop :=
  match header? line.toList with
  | none => none
  | some (kind, parts) =>
    match Body.close? 0 false parts.after with
    | none => none
    | some (body, after) =>
      if after.all isBlank then
        some
          { kind := kind
            source := String.ofList (Text.trimChars parts.source)
            var := String.ofList parts.var
            body := (Body.commands body).map String.ofList }
      else none

/-- The values that the variable takes, one after the other. -/
def values (l : Loop) : Except RangeFault (List String) :=
  match l.kind with
  | .counted => rangeValues l.source
  | .listed => .ok (listItems l.source)

example : parse? "forloop 2 as $i do \x7b echo $i ;; greet \";\" \x7d" =
    some ⟨.counted, "2", "i", ["echo $i", "greet \";\""]⟩ := by decide +kernel
example : parse? "foreach [a b] as $x do \x7b foreach y as $z do \x7b a; b \x7d; c \x7d " =
    some ⟨.listed, "[a b]", "x", ["foreach y as $z do \x7b a; b \x7d", "c"]⟩ := by decide +kernel
example : parse? "foreach   as $x do \x7b\x7d" = some ⟨.listed, "", "x", []⟩ := by decide +kernel
example : parse? "forloop 3 as i do \x7b a \x7d" = none := by decide +kernel
example : parse? "forloop 3 as $i do \x7b a \x7d b" = none := by decide +kernel

end Loop

end JsonShell
