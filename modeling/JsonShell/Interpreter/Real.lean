import JsonShell.Decimal.Literal
import JsonShell.Interpreter.Integer

/-!
# Real numbers of scripts

A real number is a binary64 number, an infinity or no number at all.  It is read from the start of a
text and written with a number of places after the point (`fixed`), with an exponent
(`scientific`), with as many digits as count (`general`) or in base sixteen.  The value is exact,
and a half goes to the even digit.
-/

set_option autoImplicit false

namespace JsonShell.Interpreter

/-- A real number. -/
inductive Real where
  | finite (x : Binary64)
  | infinite (negative : Bool)
  | notNumber (negative : Bool)
deriving DecidableEq, Repr

namespace Real

/-! ## Reading -/

/-- A real number that was read from the start of a text. -/
structure RealRead where
  value : Real
  /-- The number is too large. -/
  overflows : Bool
  rest : Octets
deriving DecidableEq, Repr

/-- The exponent at the start of a text, after one of the letters, and what follows it. -/
def exponentOf (letters : List Char) (text : Octets) : Int × Octets :=
  match text with
  | c :: rest =>
    if letters.contains c then
      let (negative, unsigned) := signOf rest
      let digits := unsigned.takeWhile Char.isDigit
      if digits.isEmpty then (0, text)
      else
        let n : Int := digitsValue 10 digits
        (if negative then -n else n, unsigned.drop digits.length)
    else (0, text)
  | [] => (0, [])

/-- A number with a significand in some base, times a power. -/
def ofParts (negative : Bool) (value? : Option Binary64) (rest : Octets) : RealRead :=
  match value? with
  | some x => ⟨.finite x, false, rest⟩
  | none => ⟨.infinite negative, true, rest⟩

/-- Digits with a point in some base: the digits, how many stand after the point, and the rest. -/
def pointed (base : Nat) (text : Octets) : Octets × Nat × Octets :=
  let whole := text.takeWhile (isDigitOf base)
  match text.drop whole.length with
  | '.' :: rest =>
    let fraction := rest.takeWhile (isDigitOf base)
    (whole ++ fraction, fraction.length, rest.drop fraction.length)
  | rest => (whole, 0, rest)

/-- The number `digits · 2 ^ exponent`. -/
def scaled (negative : Bool) (digits : Nat) (exponent : Int) : Option Binary64 :=
  if digits = 0 then some (Binary64.zero negative)
  else if 4000 < exponent then none
  else if exponent < -8000 then some (Binary64.zero negative)
  else if 0 ≤ exponent then Binary64.nearest negative (digits * Nat.pow 2 exponent.toNat) 1
  else Binary64.nearest negative digits (Nat.pow 2 (-exponent).toNat)

/-- The text begins with a word, in any case. -/
def startsWithWord (word : String) (text : Octets) : Bool :=
  (text.take word.length).map Char.toLower == word.toList

/-- Reads a real number from the start of a text. -/
def read? (text : Octets) : Option RealRead :=
  let (negative, body) := signOf (text.dropWhile Octets.isSpace)
  if startsWithWord "infinity" body then some ⟨.infinite negative, false, body.drop 8⟩
  else if startsWithWord "inf" body then some ⟨.infinite negative, false, body.drop 3⟩
  else if startsWithWord "nan" body then some ⟨.notNumber negative, false, body.drop 3⟩
  else
    let hexadecimal : Option RealRead :=
      match startsWithWord "0x" body, pointed 16 (body.drop 2) with
      | true, (digits, places, rest) =>
        if digits.isEmpty then none
        else
          let (exponent, rest) := exponentOf ['p', 'P'] rest
          some (ofParts negative
            (scaled negative (digitsValue 16 digits) (exponent - 4 * places)) rest)
      | false, _ => none
    match hexadecimal with
    | some r => some r
    | none =>
      let (digits, places, rest) := pointed 10 body
      if digits.isEmpty then none
      else
        let (exponent, rest) := exponentOf ['e', 'E'] rest
        some (ofParts negative
          (Binary64.ofDecimal negative (digitsValue 10 digits) (exponent - places)) rest)

/-! ## Writing -/

/-- The number without its sign, as a fraction. -/
def fraction (x : Binary64) : Nat × Nat :=
  if 0 ≤ x.exponent then (x.significand * Nat.pow 2 x.exponent.toNat, 1)
  else (x.significand, Nat.pow 2 (-x.exponent).toNat)

/-- Digits with a point before the last `places` of them.  `keepsPoint` keeps one that has nothing
after it. -/
def withPoint (keepsPoint : Bool) (places : Nat) (digits : Octets) : Octets :=
  let padded := List.replicate (places + 1 - digits.length) '0' ++ digits
  let whole := padded.take (padded.length - places)
  if places = 0 then (if keepsPoint then whole ++ ['.'] else whole)
  else whole ++ '.' :: padded.drop (padded.length - places)

/-- The number with a number of places after the point. -/
def fixed (keepsPoint : Bool) (places : Nat) (x : Binary64) : Octets :=
  let (num, den) := fraction x
  withPoint keepsPoint places
    (Octets.natural (Binary64.roundHalfEven (num * Nat.pow 10 places) den))

/-- The greatest `e` with `10 ^ e ≤ num / den`, for a fraction that is not zero. -/
def decimalOrder (num den : Nat) : Int :=
  let guess : Int := (Binary64.digitCount num : Int) - Binary64.digitCount den
  let reached : Bool :=
    if 0 ≤ guess then den * Nat.pow 10 guess.toNat ≤ num
    else den ≤ num * Nat.pow 10 (-guess).toNat
  if reached then guess else guess - 1

/-- The digits of a number, one more than `places`, and the decimal exponent of the first one. -/
def digitsAndOrder (places : Nat) (x : Binary64) : Octets × Int :=
  let (num, den) := fraction x
  if num = 0 then (List.replicate (places + 1) '0', 0)
  else
    let order := decimalOrder num den
    let shift : Int := places - order
    let digits :=
      if 0 ≤ shift then Binary64.roundHalfEven (num * Nat.pow 10 shift.toNat) den
      else Binary64.roundHalfEven num (den * Nat.pow 10 (-shift).toNat)
    if digits = Nat.pow 10 (places + 1) then (Octets.natural (digits / 10), order + 1)
    else (Octets.natural digits, order)

/-- An exponent with its sign and at least two digits. -/
def exponentText (letter : Char) (exponent : Int) : Octets :=
  let digits := Octets.natural exponent.natAbs
  letter :: (if exponent < 0 then '-' else '+') ::
    (List.replicate (2 - digits.length) '0' ++ digits)

/-- The number with one digit before the point, places after it, and an exponent. -/
def scientific (keepsPoint : Bool) (letter : Char) (places : Nat) (x : Binary64) : Octets :=
  let (digits, order) := digitsAndOrder places x
  withPoint keepsPoint places digits ++ exponentText letter order

/-- A text with a point, without zeros at its end. -/
def dropZeros (text : Octets) : Octets :=
  if text.contains '.' then
    match text.reverse.dropWhile (· == '0') with
    | '.' :: rest => rest.reverse
    | rest => rest.reverse
  else text

/-- The number with as many digits as count, and an exponent if it is very large or small.
`keepsZeros` keeps zeros at the end. -/
def general (keepsZeros : Bool) (letter : Char) (precision : Nat) (x : Binary64) : Octets :=
  let count := max precision 1
  let (digits, order) := digitsAndOrder (count - 1) x
  let trim (text : Octets) : Octets := if keepsZeros then text else dropZeros text
  if order < -4 || (count : Int) ≤ order then
    trim (withPoint keepsZeros (count - 1) digits) ++ exponentText letter order
  else trim (fixed keepsZeros ((count : Int) - 1 - order).toNat x)

/-- The number in base sixteen, with all places that count or as many as given. -/
def hexadecimal (keepsPoint : Bool) (places? : Option Nat) (x : Binary64) : Octets :=
  let letters (n : Nat) (width : Nat) : Octets :=
    let digits := Nat.toDigits 16 n
    List.replicate (width - digits.length) '0' ++ digits
  let isNormal := Nat.pow 2 52 ≤ x.significand
  let exponent : Int := if x.significand = 0 then 0 else if isNormal then x.exponent + 52 else -1022
  let body := match places? with
    | none =>
      let digits := letters x.significand 14
      dropZeros (digits.take 1 ++ '.' :: digits.drop 1)
    | some places =>
      if places < 13 then
        withPoint keepsPoint places
          (letters (Binary64.roundHalfEven x.significand (Nat.pow 16 (13 - places))) 1)
      else withPoint keepsPoint places
        (letters x.significand 14 ++ List.replicate (places - 13) '0')
  let text := Octets.natural exponent.natAbs
  ['0', 'x'] ++ body ++ 'p' :: (if exponent < 0 then '-' else '+') :: text

/-- The number is written with a minus. -/
def isNegative : Real → Bool
  | .finite x => x.negative
  | .infinite negative => negative
  | .notNumber negative => negative

end Real

end JsonShell.Interpreter
