import JsonShell.Decimal.Layout

/-!
# JSON numbers

A number is an integer or a binary64 number; `1` and `1.0` are different numbers and are written
differently.  Integers are those that fit 64 bits, signed or unsigned.  A float is written with the
fewest digits that read back, positionally from `0.00001` up to `1000000000000000.0`.
-/

set_option autoImplicit false

namespace JsonShell

/-- A number as JSON carries it. -/
inductive Number where
  | integer (n : Int)
  | float (x : Binary64)
deriving DecidableEq, Repr

namespace Number

/-- Floats from `1e-5` up to below `1e16` are written positionally. -/
def layout : Decimal.Layout := ⟨-5, 15⟩

/-- The number with the value of a float: an integer if the value is one below `2 ^ 63`. -/
def ofBinary64 (x : Binary64) : Number :=
  match x.integer? with
  | some n => if n.natAbs < Nat.pow 2 63 then .integer n else .float x
  | none => .float x

/-- The text of a number. -/
def text : Number → String
  | .integer n => toString n
  | .float x => layout.format x

example : text (.float ⟨false, 5629499534213120, -51⟩) = "2.5" := by decide +kernel
example : text (.float (.zero true)) = "-0.0" := by decide +kernel
example : (Binary64.ofDecimal false 1 16).map (text ∘ .float) = some "1e+16" := by decide +kernel
example : (Binary64.ofDecimal false 1 15).map (text ∘ .float) = some "1000000000000000.0" := by
  decide +kernel
example : (Binary64.ofDecimal true 15 (-11)).map (text ∘ .float) = some "-1.5e-10" := by
  decide +kernel
example : (Binary64.ofDecimal false 1 (-5)).map (text ∘ .float) = some "0.00001" := by
  decide +kernel

end Number

end JsonShell
