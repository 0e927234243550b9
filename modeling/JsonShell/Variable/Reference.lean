import JsonShell.Variable.Store

/-!
# References to variables

A reference is a dollar sign and a name, or a name in braces.  Expansion goes through a text once,
from left to right, and puts the value of a variable for each reference to it; an unbound variable
counts as empty.  What was put in is not looked at again, and a dollar sign that starts no reference
stands for itself.
-/

set_option autoImplicit false

namespace JsonShell

/-- The characters a name may start with: ASCII letters and the underscore. -/
def isNameStart (c : Char) : Bool := c.isAlpha || c == '_'

/-- The characters of a name: those it may start with and ASCII digits. -/
def isNameChar (c : Char) : Bool := isNameStart c || c.isDigit

namespace Reference

/-- The longest name that a text starts with, empty if it starts with none. -/
def leadingName : List Char → List Char
  | [] => []
  | c :: rest => if isNameStart c then c :: rest.takeWhile isNameChar else []

/-- The name referred to right after a dollar sign, and how many characters the reference takes
there. -/
def read? : List Char → Option (List Char × Nat)
  | '{' :: rest =>
    let name := leadingName rest
    if name.isEmpty then none
    else if (rest.drop name.length).head? = some '}' then some (name, name.length + 2)
    else none
  | cs =>
    let name := leadingName cs
    if name.isEmpty then none else some (name, name.length)

/-- The text after its first `skip` characters, with values for references. -/
def expandFrom (value : List Char → List Char) (skip : Nat) : List Char → List Char
  | [] => []
  | c :: rest =>
    match skip with
    | skip + 1 => expandFrom value skip rest
    | 0 =>
      if c = '$' then
        match read? rest with
        | some (name, length) => value name ++ expandFrom value length rest
        | none => c :: expandFrom value 0 rest
      else c :: expandFrom value 0 rest

theorem expandFrom_eq_drop (value : List Char → List Char) (skip : Nat) (cs : List Char) :
    expandFrom value skip cs = expandFrom value 0 (cs.drop skip) := by
  induction cs generalizing skip with
  | nil => simp [expandFrom]
  | cons c rest ih =>
    cases skip with
    | zero => rfl
    | succ skip => rw [List.drop_succ_cons, expandFrom, ih]

end Reference

/-- A name: a text that can be referred to. -/
def isName (s : String) : Bool :=
  match s.toList with
  | [] => false
  | c :: rest => isNameStart c && rest.all isNameChar

namespace Store

/-- The value that a reference stands for. -/
def valueOf (s : Store) (name : List Char) : List Char :=
  ((s.get? (String.ofList name)).getD "").toList

/-- The text with the values of the variables it refers to. -/
def expandChars (s : Store) (cs : List Char) : List Char :=
  Reference.expandFrom s.valueOf 0 cs

/-- The text with the values of the variables it refers to. -/
def expand (s : Store) (text : String) : String :=
  String.ofList (s.expandChars text.toList)

end Store

example : (Store.empty.set "x" "5").expand "ip.$x.$y$5$\x7bx\x7d0$" = "ip.5.$550$" := by
  decide +kernel

end JsonShell
