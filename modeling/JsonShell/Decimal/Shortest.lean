import JsonShell.Decimal.Binary64

/-!
# The shortest decimal that reads back

A binary64 number is written with the fewest decimal digits that still name it: every decimal
strictly between the two midpoints to its neighbours rounds to it, and the midpoints themselves do
when its significand is even.  For one digit, two digits and so on up to seventeen the grid of
decimals with that many digits is searched; only the two grid points next to the number matter,
because if any grid point lies in the interval, one of these two does.  Of two hits the nearer is
taken, and the even one of two equally near.
-/

set_option autoImplicit false

namespace JsonShell.Decimal

/-- The decimal `digits · 10 ^ exponent`. -/
structure Scaled where
  digits : Nat
  exponent : Int
deriving DecidableEq, Repr

/-- The interval of reals that round to a positive binary64 number, in quarter units of its last
place, and whether the ends belong to it. -/
structure Interval where
  low : Nat
  value : Nat
  high : Nat
  closed : Bool
  /-- One quarter unit is `2 ^ exponent`. -/
  exponent : Int
deriving DecidableEq, Repr

/-- Below a power of two the neighbours are half as far apart as above it. -/
def interval (significand : Nat) (exponent : Int) : Interval :=
  let narrow := significand == Nat.pow 2 52 && exponent != Binary64.minExponent
  { low := 4 * significand - (if narrow then 1 else 2)
    value := 4 * significand
    high := 4 * significand + 2
    closed := significand % 2 == 0
    exponent := exponent - 2 }

/-- The factors `(a, b)` with `d · 10 ^ k` compared to `x · 2 ^ q` as `d · a` to `x · b`. -/
def factors (k q : Int) : Nat × Nat :=
  (Nat.pow 10 k.toNat * Nat.pow 2 (-q).toNat, Nat.pow 2 q.toNat * Nat.pow 10 (-k).toNat)

/-- The number of places by which a fraction below one starts after the point. -/
def leadingPlaces : Nat → Nat → Nat → Nat
  | 0, _, _ => 0
  | fuel + 1, num, den => if den ≤ num then 0 else leadingPlaces fuel (num * 10) den + 1

/-- The greatest `k` with `10 ^ k ≤ x · 2 ^ q`. -/
def decimalOrder (x : Nat) (q : Int) : Int :=
  let num := x * Nat.pow 2 q.toNat
  let den := Nat.pow 2 (-q).toNat
  if den ≤ num then (Binary64.digitCount (num / den) : Int) - 1
  else -(leadingPlaces 400 num den : Int)

/-- The decimal on the grid of multiples of `10 ^ k` that is chosen for the interval, if one of the
two grid points next to its value lies in it. -/
def onGrid (i : Interval) (k : Int) : Option Nat :=
  let (a, b) := factors k i.exponent
  let v := i.value * b
  let below := v / a
  let inside (d : Nat) : Bool :=
    if i.closed then i.low * b ≤ d * a && d * a ≤ i.high * b
    else i.low * b < d * a && d * a < i.high * b
  let above := if v % a = 0 then below else below + 1
  if inside below && inside above then
    let down := v - below * a
    let up := above * a - v
    some (if down < up || (down == up && below % 2 == 0) then below else above)
  else if inside below then some below
  else if inside above then some above
  else none

/-- Tries grids of `n`, `n + 1`, … digits. -/
def search (i : Interval) (order : Int) : Nat → Nat → Scaled
  | 0, n => ⟨(onGrid i (order - n + 1)).getD 0, order - n + 1⟩
  | more + 1, n =>
    match onGrid i (order - n + 1) with
    | some d => ⟨d, order - n + 1⟩
    | none => search i order more (n + 1)

/-- The same decimal without zeros at the end of its digits. -/
def stripZeros : Nat → Scaled → Scaled
  | 0, s => s
  | fuel + 1, s =>
    if s.digits ≠ 0 ∧ s.digits % 10 = 0 then stripZeros fuel ⟨s.digits / 10, s.exponent + 1⟩ else s

/-- The shortest decimal that reads back as `significand · 2 ^ exponent`, for a positive
significand. -/
def shortest (significand : Nat) (exponent : Int) : Scaled :=
  let i := interval significand exponent
  stripZeros 20 (search i (decimalOrder i.value i.exponent) 16 1)

example : shortest 7205759403792794 (-56) = ⟨1, -1⟩ := by decide +kernel
example : shortest 1 (-1074) = ⟨5, -324⟩ := by decide +kernel
example : shortest 9007199254740991 971 = ⟨17976931348623157, 292⟩ := by decide +kernel
example : shortest 4503599627370496 (-51) = ⟨2, 0⟩ := by decide +kernel

end JsonShell.Decimal
