import JsonShell.Interpreter.Octets

/-!
# Integers of scripts

Scripts count with signed words of 64 bits, which wrap around.  A text is read as an integer from
its start: white space, a sign and digits, which are hexadecimal after `0x`, binary after `0b` and
octal after `0`.  A value that is too large is read as the largest there is.
-/

set_option autoImplicit false

namespace JsonShell.Interpreter

/-- The integer as a signed word of 64 bits. -/
def wrap (n : Int) : Int :=
  Int.bmod n (Nat.pow 2 64)

/-- The integer as an unsigned word of 64 bits. -/
def wrapUnsigned (n : Int) : Nat :=
  (n % (Nat.pow 2 64 : Nat)).toNat

/-- The largest signed word. -/
def maxWord : Int := (Nat.pow 2 63 : Nat) - 1

/-- The least signed word. -/
def minWord : Int := -(Nat.pow 2 63 : Nat)

theorem wrap_eq_self {n : Int} (low : minWord ≤ n) (high : n ≤ maxWord) : wrap n = n := by
  simp only [minWord, maxWord, wrap] at *
  rw [Int.bmod_eq_iff (by decide)]
  simp at *
  omega

/-- The value of a digit in any base. -/
def digitValue? (c : Char) : Option Nat :=
  if c.isDigit then some (c.toNat - 48)
  else if 'a' ≤ c && c ≤ 'z' then some (c.toNat - 87)
  else if 'A' ≤ c && c ≤ 'Z' then some (c.toNat - 55)
  else none

/-- The digit is one of a base. -/
def isDigitOf (base : Nat) (c : Char) : Bool :=
  match digitValue? c with
  | some d => d < base
  | none => false

/-- The natural number of digits in a base. -/
def digitsValue (base : Nat) (digits : Octets) : Nat :=
  digits.foldl (fun n c => n * base + (digitValue? c).getD 0) 0

/-- The sign at the start of a text, and what follows it. -/
def signOf : Octets → Bool × Octets
  | '-' :: rest => (true, rest)
  | '+' :: rest => (false, rest)
  | text => (false, text)

/-- The base that the start of digits tells, and the digits. -/
def baseOf : Octets → Nat × Octets
  | '0' :: x :: d :: rest =>
    if (x == 'x' || x == 'X') && isDigitOf 16 d then (16, d :: rest)
    else if (x == 'b' || x == 'B') && isDigitOf 2 d then (2, d :: rest)
    else (8, '0' :: x :: d :: rest)
  | '0' :: rest => (8, '0' :: rest)
  | text => (10, text)

/-- An integer that was read from the start of a text. -/
structure IntegerRead where
  negative : Bool
  magnitude : Nat
  rest : Octets
deriving DecidableEq, Repr

/-- Reads an integer from the start of a text, in the base that its digits tell or in base ten. -/
def readInteger? (anyBase : Bool) (text : Octets) : Option IntegerRead :=
  let (negative, unsigned) := signOf (text.dropWhile Octets.isSpace)
  let (base, body) := if anyBase then baseOf unsigned else (10, unsigned)
  let digits := body.takeWhile (isDigitOf base)
  if digits.isEmpty then none
  else some ⟨negative, digitsValue base digits, body.drop digits.length⟩

/-- The signed word nearest to an integer that was read. -/
def IntegerRead.signed (r : IntegerRead) : Int :=
  if r.negative then max minWord (-r.magnitude) else min maxWord r.magnitude

/-- The integer fits a signed word. -/
def IntegerRead.fits (r : IntegerRead) : Bool :=
  if r.negative then minWord ≤ -(r.magnitude : Int) else (r.magnitude : Int) ≤ maxWord

/-- The integer that a text is, in base ten; white space may follow it. -/
def integer? (text : Octets) : Option Int :=
  match readInteger? false text with
  | some r => if r.fits && r.rest.all Octets.isSpace then some r.signed else none
  | none => none

/-- The natural number that a text is; it is made of digits only. -/
def natural? (text : Octets) : Option Nat :=
  if text.isEmpty || !text.all Char.isDigit then none else some (digitsValue 10 text)

example : wrap (Nat.pow 2 63 : Nat) = minWord := by decide +kernel
example : readInteger? true "-0x1Fz".toList = some ⟨true, 31, ['z']⟩ := by decide +kernel
example : readInteger? true "08".toList = some ⟨false, 0, ['8']⟩ := by decide +kernel
example : integer? " -7 ".toList = some (-7) ∧ integer? "7x".toList = none := by decide +kernel

end JsonShell.Interpreter
