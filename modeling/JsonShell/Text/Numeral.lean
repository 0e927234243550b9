/-!
# Integer literals

Ranges, counts and options are written as decimal integers: an optional sign and ASCII digits,
nothing else.  The value must fit a machine word.  Digits are read from left to right, so of a bad
character and an overflow the one that is met first is reported.

`readNatural` reads an unsigned 64-bit literal and `readInteger` a signed one.
-/

set_option autoImplicit false

namespace JsonShell.Numeral

/-- Why a text is not an integer literal. -/
inductive Fault where
  | empty
  | invalidDigit
  | tooLarge
deriving DecidableEq, Repr

/-- The text of a fault. -/
def Fault.message : Fault → String
  | .empty => "cannot parse integer from empty string"
  | .invalidDigit => "invalid digit found in string"
  | .tooLarge => "number too large to fit in target type"

/-- The value of an ASCII digit. -/
def digitValue (c : Char) : Nat :=
  c.toNat - 48

/-- Reads digits onto `value`, which may not exceed `bound`. -/
def readDigits (bound value : Nat) : List Char → Except Fault Nat
  | [] => .ok value
  | c :: rest =>
    if c.isDigit then
      let next := value * 10 + digitValue c
      if next ≤ bound then readDigits bound next rest else .error .tooLarge
    else .error .invalidDigit

/-- Reads at least one digit. -/
def readSome (bound : Nat) : List Char → Except Fault Nat
  | [] => .error .invalidDigit
  | cs => readDigits bound 0 cs

/-- The largest unsigned 64-bit integer. -/
def maxNatural : Nat := Nat.pow 2 64 - 1

/-- The largest signed 64-bit integer. -/
def maxInteger : Nat := Nat.pow 2 63 - 1

/-- An unsigned literal: an optional `+` and digits. -/
def readNatural : List Char → Except Fault Nat
  | [] => .error .empty
  | '+' :: digits => readSome maxNatural digits
  | digits => readSome maxNatural digits

/-- A signed literal: an optional `+` or `-` and digits. -/
def readInteger : List Char → Except Fault Int
  | [] => .error .empty
  | '-' :: digits => (readSome (maxInteger + 1) digits).map fun n => -(n : Int)
  | '+' :: digits => (readSome maxInteger digits).map Int.ofNat
  | digits => (readSome maxInteger digits).map Int.ofNat

/-- The signed integer that `s` denotes, if it denotes one. -/
def integer? (s : String) : Option Int :=
  (readInteger s.toList).toOption

/-- The unsigned integer that `s` denotes, or the fault that is met first. -/
def natural (s : String) : Except Fault Nat :=
  readNatural s.toList

example : integer? "-9223372036854775808" = some (-9223372036854775808) := by decide +kernel
example : integer? "9223372036854775808" = none := by decide +kernel
example : integer? "+7" = some 7 ∧ integer? "-" = none ∧ integer? "" = none := by decide +kernel
example : readNatural "99999999999999999999x".toList = .error .tooLarge := rfl

end JsonShell.Numeral
