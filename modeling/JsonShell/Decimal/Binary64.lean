/-!
# Binary64 numbers

A number with a fraction is carried as a binary64 number: a sign, a significand below `2 ^ 53` and a
power of two.  Everything is exact arithmetic on naturals and integers, so a reader can compute with
these numbers inside a proof.

`nearest` rounds a positive fraction `num / den` to the nearest binary64 number, a tie to the even
significand; it fails when the fraction is too large.  `ofBits?` reads the 64-bit encoding.
-/

set_option autoImplicit false

namespace JsonShell

/-- The number `± significand · 2 ^ exponent`. -/
structure Binary64 where
  negative : Bool
  significand : Nat
  exponent : Int
deriving DecidableEq, Repr

namespace Binary64

/-- The exponent of the subnormal numbers, the least there is. -/
def minExponent : Int := -1074

/-- The greatest exponent. -/
def maxExponent : Int := 971

/-- Zero with a sign. -/
def zero (negative : Bool) : Binary64 :=
  ⟨negative, 0, minExponent⟩

/-- The finite number encoded in 64 bits; the other encodings are infinities and not-a-numbers. -/
def ofBits? (bits : Nat) : Option Binary64 :=
  let negative := bits / Nat.pow 2 63 % 2 == 1
  let biased : Nat := bits / Nat.pow 2 52 % Nat.pow 2 11
  let fraction : Nat := bits % Nat.pow 2 52
  if biased = 2047 then none
  else if biased = 0 then some ⟨negative, fraction, minExponent⟩
  else some ⟨negative, Nat.pow 2 52 + fraction, Int.ofNat biased - 1075⟩

/-- The number with the opposite sign. -/
def neg (x : Binary64) : Binary64 :=
  { x with negative := !x.negative }

/-- The integer that the number is, if it is one. -/
def integer? (x : Binary64) : Option Int :=
  let signed (n : Nat) : Int := if x.negative then -(n : Int) else n
  if 0 ≤ x.exponent then some (signed (x.significand * Nat.pow 2 x.exponent.toNat))
  else
    let unit := Nat.pow 2 (-x.exponent).toNat
    if x.significand % unit = 0 then some (signed (x.significand / unit)) else none

/-! ## Rounding -/

/-- `num / den` rounded to the nearest integer, a half to the even one. -/
def roundHalfEven (num den : Nat) : Nat :=
  let below := num / den
  let rest := num % den
  if 2 * rest > den || (2 * rest == den && below % 2 == 1) then below + 1 else below

/-- `num / den` divided by `2 ^ q`, as a fraction. -/
def overPower (num den : Nat) (q : Int) : Nat × Nat :=
  if 0 ≤ q then (num, den * Nat.pow 2 q.toNat) else (num * Nat.pow 2 (-q).toNat, den)

/-- The greatest `e` with `2 ^ e ≤ num / den`. -/
def binaryOrder (num den : Nat) : Int :=
  let guess : Int := (Nat.log2 num : Int) - Nat.log2 den
  let scaled := overPower num den guess
  if scaled.2 ≤ scaled.1 then guess else guess - 1

/-- The exponent at which `num / den` has a significand of 53 bits, or the least exponent. -/
def gridExponent (num den : Nat) : Int :=
  max (binaryOrder num den - 52) minExponent

/-- The binary64 number nearest to `num / den`, unless the fraction is too large for one. -/
def nearest (negative : Bool) (num den : Nat) : Option Binary64 :=
  if num = 0 then some (zero negative)
  else
    let q := gridExponent num den
    let scaled := overPower num den q
    let m := roundHalfEven scaled.1 scaled.2
    let (m, q) := if m = Nat.pow 2 53 then (Nat.pow 2 52, q + 1) else (m, q)
    if q ≤ maxExponent then some ⟨negative, m, q⟩ else none

/-- The number of decimal digits of a natural number; zero has one. -/
def digitCount (n : Nat) : Nat :=
  (Nat.toDigits 10 n).length

/-- The binary64 number nearest to `digits · 10 ^ exponent`.  Decimal exponents far outside the
range of binary64 are decided without computing the power. -/
def ofDecimal (negative : Bool) (digits : Nat) (exponent : Int) : Option Binary64 :=
  if digits = 0 then some (zero negative)
  else
    let order := (digitCount digits : Int) + exponent
    if 310 < order then none
    else if order < -330 then some (zero negative)
    else if 0 ≤ exponent then nearest negative (digits * Nat.pow 10 exponent.toNat) 1
    else nearest negative digits (Nat.pow 10 (-exponent).toNat)

example : ofDecimal false 1 (-1) = some ⟨false, 7205759403792794, -56⟩ := by decide +kernel
example : ofDecimal false 9007199254740993 0 = some ⟨false, 4503599627370496, 1⟩ := by
  decide +kernel
example : ofDecimal false 17976931348623159 292 = none := by decide +kernel
example : ofDecimal true 2 (-324) = some (zero true) := by decide +kernel
example : ofDecimal false 3 (-324) = some ⟨false, 1, -1074⟩ := by decide +kernel

end Binary64

end JsonShell
