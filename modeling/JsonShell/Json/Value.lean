import JsonShell.Dictionary
import JsonShell.Json.Number

/-!
# JSON values

The values that modules exchange.  An object is a dictionary: its keys increase, and that is the
order in which they are shown.  `WellFormed` says so at every level; values that are read from text
have it.
-/

set_option autoImplicit false

namespace JsonShell

/-- A JSON value. -/
inductive Value where
  | string (s : String)
  | number (n : Number)
  | bool (b : Bool)
  | null
  | list (items : List Value)
  | map (entries : List (String × Value))
deriving Repr

namespace Value

/-- The entries of an object. -/
def entries? : Value → Option (Dictionary Value)
  | .map entries => some entries
  | _ => none

/-- An integer value. -/
def ofInt (n : Int) : Value :=
  .number (.integer n)

/-! ## Objects have increasing keys -/

mutual

/-- At every level the keys of an object increase strictly. -/
def WellFormed : Value → Prop
  | .list items => AllWellFormed items
  | .map entries => Dictionary.Sorted entries ∧ EntriesWellFormed entries
  | _ => True

/-- Every element is well formed. -/
def AllWellFormed : List Value → Prop
  | [] => True
  | v :: rest => WellFormed v ∧ AllWellFormed rest

/-- Every entry's value is well formed. -/
def EntriesWellFormed : List (String × Value) → Prop
  | [] => True
  | (_, v) :: rest => WellFormed v ∧ EntriesWellFormed rest

end

/-! ## Equality is decidable -/

mutual

/-- Decides equality of values. -/
def decEq : (v w : Value) → Decidable (v = w)
  | .string a, .string b => decidable_of_iff (a = b) (by simp)
  | .number a, .number b => decidable_of_iff (a = b) (by simp)
  | .bool a, .bool b => decidable_of_iff (a = b) (by simp)
  | .null, .null => isTrue rfl
  | .list a, .list b =>
    match decEqList a b with
    | isTrue h => isTrue (by rw [h])
    | isFalse h => isFalse (by simpa using h)
  | .map a, .map b =>
    match decEqEntries a b with
    | isTrue h => isTrue (by rw [h])
    | isFalse h => isFalse (by simpa using h)
  | .string _, .number _ | .string _, .bool _ | .string _, .null | .string _, .list _
  | .string _, .map _ | .number _, .string _ | .number _, .bool _ | .number _, .null
  | .number _, .list _ | .number _, .map _ | .bool _, .string _ | .bool _, .number _
  | .bool _, .null | .bool _, .list _ | .bool _, .map _ | .null, .string _ | .null, .number _
  | .null, .bool _ | .null, .list _ | .null, .map _ | .list _, .string _ | .list _, .number _
  | .list _, .bool _ | .list _, .null | .list _, .map _ | .map _, .string _ | .map _, .number _
  | .map _, .bool _ | .map _, .null | .map _, .list _ => isFalse (by simp)

/-- Decides equality of lists of values. -/
def decEqList : (v w : List Value) → Decidable (v = w)
  | [], [] => isTrue rfl
  | a :: v, b :: w =>
    match decEq a b, decEqList v w with
    | isTrue h, isTrue h' => isTrue (by rw [h, h'])
    | isFalse h, _ => isFalse (by simp [h])
    | _, isFalse h => isFalse (by simp [h])
  | [], _ :: _ | _ :: _, [] => isFalse (by simp)

/-- Decides equality of the entries of objects. -/
def decEqEntries : (v w : List (String × Value)) → Decidable (v = w)
  | [], [] => isTrue rfl
  | (k, a) :: v, (l, b) :: w =>
    if hk : k = l then
      match decEq a b, decEqEntries v w with
      | isTrue h, isTrue h' => isTrue (by rw [h, h', hk])
      | isFalse h, _ => isFalse (by simp [h])
      | _, isFalse h => isFalse (by simp [h])
    else isFalse (by simp [hk])
  | [], _ :: _ | _ :: _, [] => isFalse (by simp)

end

instance : DecidableEq Value := decEq

end Value

end JsonShell
