import JsonShell.Interpreter.Pattern

/-!
# Fields

The expansion of a word is a row of *atoms*: characters, and marks of where a field starts or ends.
`fields` puts them together.  Characters that came from a value outside of quotes are cut at
separators: one that is white space only ends a field, while any other one also stands between two
fields of which either may be empty.
-/

set_option autoImplicit false

namespace JsonShell.Interpreter

/-- A piece of the expansion of a word. -/
inductive Atom where
  /-- A character; one that `splits` ends a field if it is a separator. -/
  | glyph (g : Glyph) (splits : Bool)
  /-- Starts a field, if none is started. -/
  | mark
  /-- Ends a field, if one is started. -/
  | cut
deriving DecidableEq, Repr

namespace Field

/-- The separators of a shell that names none. -/
def usualSeparators : Octets := [' ', '\t', '\n']

/-- A separator that is white space. -/
def isWhite (c : Char) : Bool :=
  usualSeparators.contains c

/-- Adds a field that has been started, which is in reverse, to those before it. -/
def close (field : Option (List Glyph)) (fields : List (List Glyph)) : List (List Glyph) :=
  match field with
  | some f => f.reverse :: fields
  | none => fields

/-- The fields of atoms, in reverse; `field` is the one that has been started, and `absorbs` tells
that white space has ended a field, so that a separator after it belongs to the same cut. -/
def cutAtoms (separators : Octets) (field : Option (List Glyph)) (absorbs : Bool)
    (done : List (List Glyph)) : List Atom → List (List Glyph)
  | [] => close field done
  | .mark :: rest => cutAtoms separators (some (field.getD [])) false done rest
  | .cut :: rest => cutAtoms separators none false (close field done) rest
  | .glyph g splits :: rest =>
    if splits && separators.contains g.char then
      if isWhite g.char then
        cutAtoms separators none (absorbs || field.isSome) (close field done) rest
      else if absorbs then cutAtoms separators none false done rest
      else cutAtoms separators none false (close (some (field.getD [])) done) rest
    else cutAtoms separators (some (g :: field.getD [])) false done rest

/-- The fields of atoms. -/
def fields (separators : Octets) (atoms : List Atom) : List (List Glyph) :=
  (cutAtoms separators none false [] atoms).reverse

/-- The characters of atoms that are not cut; `joint` stands where fields would end. -/
def uncut (joint : Octets) (atoms : List Atom) : List Glyph :=
  atoms.flatMap fun atom => match atom with
    | .glyph g _ => [g]
    | .mark => []
    | .cut => Glyph.ofText false joint

/-- The atoms of a value outside of quotes. -/
def splitting (text : Octets) : List Atom :=
  text.map fun c => .glyph ⟨c, true⟩ true

/-- The atoms of a text that is kept as it is. -/
def kept (text : Octets) : List Atom :=
  text.map fun c => .glyph ⟨c, false⟩ false

example : (fields usualSeparators (splitting " a  b ".toList)).map Glyph.text = [['a'], ['b']] := by
  decide +kernel
example : (fields [' ', ':'] (splitting "a : :b:".toList)).map Glyph.text = [['a'], [], ['b']] := by
  decide +kernel
example : fields usualSeparators [.mark] = [[]] ∧ fields usualSeparators [.cut] = [] := by
  decide +kernel

end Field

end JsonShell.Interpreter
