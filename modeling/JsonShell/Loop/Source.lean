import JsonShell.Text.Numeral
import JsonShell.Line.Token
import JsonShell.Text.Blank
import JsonShell.Text.Split

/-!
# What a loop runs over

A range is `A..B`, both ends included and descending if `A` is greater, or a comma list, or a count
`N` standing for `0` to `N - 1`.  A list is `[a "b c"]`, read as words, or items separated by pipes,
each perhaps in quotes of its own, or a single item.
-/

set_option autoImplicit false

namespace JsonShell

/-- Why an expression is not a range. -/
inductive RangeFault where
  /-- An end of `A..B` is no integer. -/
  | ends (expression : String)
  /-- Neither a comma list nor an integer. -/
  | count (expression : String)
deriving DecidableEq, Repr

/-- The text of a range fault. -/
def RangeFault.message : RangeFault → String
  | .ends expression => "invalid range: " ++ expression
  | .count expression => "invalid range expression: " ++ expression

/-- The texts of `n` consecutive integers from `first`. -/
def ascending (first : Int) (n : Nat) : List String :=
  (List.range n).map fun (i : Nat) => toString (first + i)

/-- The texts of `n` consecutive integers from `first` downwards. -/
def descending (first : Int) (n : Nat) : List String :=
  (List.range n).map fun (i : Nat) => toString (first - i)

/-- The integers from `a` to `b`, both included, in that direction. -/
def spanning (a b : Int) : List String :=
  if a ≤ b then ascending a ((b - a).toNat + 1) else descending a ((a - b).toNat + 1)

/-- The values of a range. -/
def rangeValues (expression : String) : Except RangeFault (List String) :=
  match Text.splitStringFirst ".." expression with
  | some (a, b) =>
    match Numeral.integer? a, Numeral.integer? b with
    | some a, some b => .ok (spanning a b)
    | _, _ => .error (.ends expression)
  | none =>
    if expression.toList.contains ',' then .ok ((Text.splitString ',' expression).map Text.trim)
    else
      match Numeral.integer? expression with
      | some n => .ok (ascending 0 n.toNat)
      | none => .error (.count expression)

/-- The text between the first and the last character, if these are `opening` and `closing`. -/
def enclosed? (opening closing : Char) (cs : List Char) : Option (List Char) :=
  match cs with
  | first :: rest =>
    if first = opening ∧ rest.getLast? = some closing then some rest.dropLast else none
  | [] => none

/-- The text without one pair of double or single quotes around it. -/
def unquote (s : String) : String :=
  match enclosed? '"' '"' s.toList with
  | some inner => String.ofList inner
  | none =>
    match enclosed? '\'' '\'' s.toList with
    | some inner => String.ofList inner
    | none => s

/-- The words between brackets, if the text is in brackets. -/
def bracketed? (s : String) : Option (List String) :=
  (enclosed? '[' ']' s.toList).map fun inner =>
    (Token.words (Text.trimChars inner)).map String.ofList

/-- The characters that are stripped from a single item. -/
def isItemMargin (c : Char) : Bool :=
  c == ' ' || c == '\t' || c == '\n' || c == '\r' || c == '"' || c == '\''

/-- The items of a list. -/
def listItems (expression : String) : List String :=
  let s := Text.trim expression
  match bracketed? s with
  | some words => words
  | none =>
    if s.toList.contains '|' then
      (Text.splitString '|' s).map fun item => unquote (Text.trim item)
    else [String.ofList (Text.stripChars isItemMargin s.toList)]

example : rangeValues "3..0" = .ok ["3", "2", "1", "0"] := by rfl
example : rangeValues "a, b,10" = .ok ["a", "b", "10"] := by rfl
example : rangeValues "-2" = .ok [] := by rfl
example : rangeValues "x..2" = .error (.ends "x..2") := by rfl
example : listItems "[a \"b c\"]" = ["a", "b c"] := by decide +kernel
example : listItems "'a' | \"b\"|c" = ["a", "b", "c"] := by decide +kernel

end JsonShell
