import JsonShell.Decimal.Binary64

/-!
# Decimal literals

A literal is an optional sign followed by digits with at most one point, where a digit stands on at
least one side of the point, and an optional exponent.  The words `inf`, `infinity` and `nan`, in
any case, are literals too; they and the numbers beyond the largest binary64 number denote no
finite number.
-/

set_option autoImplicit false

namespace JsonShell.Decimal

/-- The value of a sequence of ASCII digits. -/
def digitsValue (digits : List Char) : Nat :=
  digits.foldl (fun n c => n * 10 + (c.toNat - 48)) 0

/-- The parts of a literal: the digits before and after the point, and the exponent. -/
structure Parts where
  negative : Bool
  whole : List Char
  fraction : List Char
  exponent : Int
deriving DecidableEq, Repr

/-- The binary64 number nearest to the literal, unless it is too large. -/
def Parts.value? (p : Parts) : Option Binary64 :=
  Binary64.ofDecimal p.negative (digitsValue (p.whole ++ p.fraction))
    (p.exponent - p.fraction.length)

/-- A sign in front, and what follows it. -/
def readSign : List Char → Bool × List Char
  | '-' :: rest => (true, rest)
  | '+' :: rest => (false, rest)
  | cs => (false, cs)

/-- The exponent that ends a literal; nothing means zero. -/
def readExponent : List Char → Option Int
  | [] => some 0
  | c :: rest =>
    if c = 'e' ∨ c = 'E' then
      let (negative, digits) := readSign rest
      if digits.isEmpty || !digits.all Char.isDigit then none
      else some (if negative then -(digitsValue digits : Int) else digitsValue digits)
    else none

/-- The point and the digits after it. -/
def readFraction : List Char → List Char × List Char
  | '.' :: rest => (rest.takeWhile Char.isDigit, rest.dropWhile Char.isDigit)
  | cs => ([], cs)

/-- The parts of a literal with digits. -/
def readParts (cs : List Char) : Option Parts :=
  let (negative, body) := readSign cs
  let whole := body.takeWhile Char.isDigit
  let (fraction, rest) := readFraction (body.dropWhile Char.isDigit)
  if whole.isEmpty && fraction.isEmpty then none
  else (readExponent rest).map fun exponent => ⟨negative, whole, fraction, exponent⟩

/-- The finite binary64 number that a text denotes. -/
def finite? (s : String) : Option Binary64 :=
  (readParts s.toList).bind Parts.value?

example : finite? "2.5" = some ⟨false, 5629499534213120, -51⟩ := by decide +kernel
example : finite? "." = none ∧ finite? "1e" = none ∧ finite? "inf" = none := by decide +kernel
example : (finite? "+.5e-3").isSome ∧ (finite? "5.").isSome ∧ finite? "1e999" = none := by
  decide +kernel

end JsonShell.Decimal
