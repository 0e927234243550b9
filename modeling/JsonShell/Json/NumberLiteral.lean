import JsonShell.Json.Fault
import JsonShell.Json.Number

/-!
# JSON numbers in text

A number is an optional minus, digits without a leading zero, an optional fraction and an optional
exponent.  Digits alone are an integer if they fit 64 bits, unsigned or, after a minus, signed.
Everything else, `-0` and longer integers included, is a float: the nearest one, and a fault if
there is none.  An exponent of more than 31 bits is decided at the digit that makes it so.
-/

set_option autoImplicit false

namespace JsonShell.Json

/-- The ASCII digits. -/
def isDigit (b : UInt8) : Bool := 48 ≤ b && b ≤ 57

/-- The value of a sequence of digits. -/
def bytesValue (digits : Bytes) : Nat :=
  digits.foldl (fun n b => n * 10 + (b.toNat - 48)) 0

/-- The greatest exponent that is read in full. -/
def maxExponentLiteral : Nat := Nat.pow 2 31 - 1

/-- The value of an exponent's digits, or, when it is too large, what follows the digit that makes
it so. -/
def exponentValue (value : Nat) : Bytes → Except Bytes Nat
  | [] => .ok value
  | b :: rest =>
    if isDigit b then
      let next := value * 10 + (b.toNat - 48)
      if next ≤ maxExponentLiteral then exponentValue next rest else .error rest
    else .ok value

/-- The integer, or the float if it does not fit, of digits alone. -/
def integerOf (negative : Bool) (n : Nat) : Option Number :=
  if negative then
    if 0 < n ∧ n ≤ Nat.pow 2 63 then some (.integer (-(n : Int)))
    else (Binary64.ofDecimal true n 0).map .float
  else if n < Nat.pow 2 64 then some (.integer n)
  else (Binary64.ofDecimal false n 0).map .float

/-- Ends a literal: a number without a value is out of range. -/
def numberAt (number : Option Number) (rest : Bytes) : Reading Number :=
  match number with
  | some n => .ok (n, rest)
  | none => .error (.taken .numberOutOfRange rest)

/-- The float of all digits before the exponent, `places` of them after the point, from just after
the letter that begins the exponent. -/
def readExponent (negative : Bool) (digits places : Nat) (bytes : Bytes) : Reading Number :=
  let (down, bytes) :=
    match bytes with
    | b :: rest => if b = 43 then (false, rest) else if b = 45 then (true, rest) else (false, bytes)
    | [] => (false, [])
  match bytes with
  | [] => .error (.taken .endInValue [])
  | b :: rest =>
    if isDigit b then
      match exponentValue 0 bytes with
      | .ok e =>
        let exponent : Int := (if down then -(e : Int) else e) - places
        numberAt ((Binary64.ofDecimal negative digits exponent).map .float)
          (bytes.dropWhile isDigit)
      | .error after =>
        if digits ≠ 0 ∧ !down then .error (.taken .numberOutOfRange after)
        else .ok (.float (.zero negative), after.dropWhile isDigit)
    else .error (.taken .invalidNumber rest)

/-- What follows the digits before the point. -/
def readAfterWhole (negative : Bool) (whole : Bytes) (bytes : Bytes) : Reading Number :=
  match bytes with
  | 46 :: rest =>
    let fraction := rest.takeWhile isDigit
    let after := rest.dropWhile isDigit
    let digits := bytesValue (whole ++ fraction)
    if fraction.isEmpty then
      .error (if after.isEmpty then .taken .endInValue [] else .refused .invalidNumber after)
    else
      match after with
      | b :: past =>
        if b = 101 ∨ b = 69 then readExponent negative digits fraction.length past
        else
          numberAt ((Binary64.ofDecimal negative digits (-fraction.length)).map .float) after
      | [] => numberAt ((Binary64.ofDecimal negative digits (-fraction.length)).map .float) []
  | b :: rest =>
    if b = 101 ∨ b = 69 then readExponent negative (bytesValue whole) 0 rest
    else numberAt (integerOf negative (bytesValue whole)) bytes
  | [] => numberAt (integerOf negative (bytesValue whole)) []

/-- The number whose minus, if any, has been taken. -/
def readNumber (negative : Bool) (bytes : Bytes) : Reading Number :=
  match bytes with
  | [] => .error (.taken .endInValue [])
  | 48 :: rest =>
    match rest with
    | b :: _ =>
      if isDigit b then .error (.refused .invalidNumber rest)
      else readAfterWhole negative [48] rest
    | [] => readAfterWhole negative [48] []
  | b :: rest =>
    if isDigit b then
      readAfterWhole negative (bytes.takeWhile isDigit) (bytes.dropWhile isDigit)
    else .error (.taken .invalidNumber rest)

end JsonShell.Json
