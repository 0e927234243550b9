import JsonShell.Dictionary

/-!
# The variable store

There is one scope: a variable belongs to the whole session, a loop's variable included.  A store is
a dictionary from names to texts, so its bindings are listed by name.
-/

set_option autoImplicit false

namespace JsonShell

/-- The variables of a session. -/
structure Store where
  bindings : Dictionary String
deriving DecidableEq, Repr

namespace Store

/-- A store without variables. -/
def empty : Store := ⟨[]⟩

/-- The value of a variable. -/
def get? (s : Store) (name : String) : Option String :=
  Dictionary.find? name s.bindings

/-- Binds a variable, in place of the value it had. -/
def set (s : Store) (name value : String) : Store :=
  ⟨Dictionary.insert name value s.bindings⟩

/-- Unbinds a variable. -/
def remove (s : Store) (name : String) : Store :=
  ⟨Dictionary.erase name s.bindings⟩

/-- The variables and their values, by name. -/
def toList (s : Store) : List (String × String) := s.bindings

@[simp] theorem get?_empty (name : String) : empty.get? name = none := rfl

theorem get?_set (s : Store) (name value other : String) :
    (s.set name value).get? other = if other = name then some value else s.get? other :=
  Dictionary.find?_insert name other value s.bindings

theorem get?_remove (s : Store) (name other : String) :
    (s.remove name).get? other = if other = name then none else s.get? other :=
  Dictionary.find?_erase name other s.bindings

end Store

end JsonShell
