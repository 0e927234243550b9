import JsonShell.Decimal.Shortest

/-!
# Writing a decimal

A number is written positionally (`0.00001`, `1500.0`) or in exponent form (`1.5e-10`, `1e+16`).  A
`Layout` says which decimal exponents are written positionally.  In positional form there is always
a point with a digit on both sides; in exponent form the point is left out when only one digit is
written, and the exponent always has a sign and is not padded.
-/

set_option autoImplicit false

namespace JsonShell.Decimal

/-- The decimal exponents of the first digit that are written positionally. -/
structure Layout where
  least : Int
  greatest : Int
deriving DecidableEq, Repr

/-- `digits` with the point after the first of them multiplied by `10 ^ order`. -/
def Layout.write (layout : Layout) (digits : List Char) (order : Int) : List Char :=
  if layout.least ≤ order ∧ order ≤ layout.greatest then
    if 0 ≤ order then
      let whole := digits.take (order.toNat + 1)
      let fraction := digits.drop (order.toNat + 1)
      whole ++ List.replicate (order.toNat + 1 - whole.length) '0' ++ '.' ::
        (if fraction.isEmpty then ['0'] else fraction)
    else '0' :: '.' :: List.replicate ((-order).toNat - 1) '0' ++ digits
  else
    let mantissa :=
      match digits with
      | first :: second :: rest => first :: '.' :: second :: rest
      | short => short
    mantissa ++ 'e' :: (if 0 ≤ order then '+' else '-') :: Nat.toDigits 10 order.natAbs

/-- The text of a binary64 number, with the fewest digits that read back. -/
def Layout.format (layout : Layout) (x : Binary64) : String :=
  let sign := if x.negative then ['-'] else []
  if x.significand = 0 then String.ofList (sign ++ layout.write ['0'] 0)
  else
    let s := shortest x.significand x.exponent
    let digits := Nat.toDigits 10 s.digits
    String.ofList (sign ++ layout.write digits (s.exponent + digits.length - 1))

end JsonShell.Decimal
