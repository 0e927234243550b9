import JsonShell.Interpreter.Print
import JsonShell.Interpreter.Utility.Basic

/-!
# Series of numbers

`seq` prints numbers from a first one to a last one.  They are decimal numbers with a fixed number
of places, which is that of the operands, so they are counted exactly.
-/

set_option autoImplicit false

namespace JsonShell.Interpreter.Utility

open Shell

/-- A decimal number: an integer and the number of its last digits that are places. -/
structure FixedPoint where
  digits : Int
  places : Nat

namespace FixedPoint

/-- The number that a text writes. -/
def read? (text : Octets) : Option FixedPoint :=
  let (negative, body) := signOf text
  let whole := body.takeWhile Char.isDigit
  let rest := body.drop whole.length
  let (fraction, rest) : Octets × Octets := match rest with
    | '.' :: rest =>
      let digits := rest.takeWhile Char.isDigit
      (digits, rest.drop digits.length)
    | rest => ([], rest)
  let power : Option Nat := match rest with
    | [] => some 0
    | e :: rest => if e == 'e' || e == 'E' then natural? rest else none
  match power with
  | none => none
  | some power =>
    if (whole ++ fraction).isEmpty then none
    else
      let n : Int := digitsValue 10 (whole ++ fraction) * Nat.pow 10 (power - fraction.length)
      some ⟨if negative then -n else n, fraction.length - power⟩

/-- The digits of the number with so many places. -/
def scaled (x : FixedPoint) (places : Nat) : Int :=
  x.digits * (Nat.pow 10 (places - x.places) : Nat)

end FixedPoint

/-- An integer as a number with so many places. -/
def placed (places : Nat) (n : Int) : Octets :=
  let digits := Octets.natural n.natAbs
  let digits := List.replicate (places + 1 - digits.length) '0' ++ digits
  let whole := digits.take (digits.length - places)
  let fraction := digits.drop (digits.length - places)
  (if n < 0 then ['-'] else []) ++ whole ++ (if places = 0 then [] else '.' :: fraction)

/-- A number with zeros in front of it, up to a width. -/
def zeroFilled (width : Nat) (text : Octets) : Octets :=
  let (sign, body) : Octets × Octets := match text with
    | '-' :: body => (['-'], body)
    | body => ([], body)
  sign ++ List.replicate (width - text.length) '0' ++ body

/-- The numbers from one to another in steps, as many as there can be. -/
def series (step last : Int) : Nat → Int → List Int
  | 0, _ => []
  | fuel + 1, n =>
    if step = 0 || (0 < step && last < n) || (step < 0 && n < last) then []
    else n :: series step last fuel (n + step)

/-- The most numbers of a series. -/
def seriesLimit : Nat := 1000000

/-- The arguments with a mark in front of the first operand that is a negative number.  What is the
value of the option before it stays as it is. -/
def beforeNumbers : Bool → List Octets → List Octets
  | _, [] => []
  | true, value :: rest => value :: beforeNumbers false rest
  | false, arg :: rest =>
    match arg with
    | ['-', '-'] => arg :: rest
    | '-' :: c :: more =>
      if c.isDigit || c == '.' then ['-', '-'] :: arg :: rest
      else arg :: beforeNumbers (more.isEmpty && (c == 's' || c == 'f')) rest
    | _ => arg :: rest

/-- `seq`. -/
def seq : Utility := fun _ args =>
  let g : Grammar := ⟨"f:s:w", [("format", 'f'), ("separator", 's'), ("equal-width", 'w')]⟩
  withCall "seq" g 1 true (beforeNumbers false args) fun c => do
    match c.operands.find? fun text => (FixedPoint.read? text).isNone with
    | some text =>
      misuse "seq" ("invalid floating point argument: ".toList ++ quoted text) 1
    | none =>
      let one : FixedPoint := ⟨1, 0⟩
      let bounds : Option (FixedPoint × FixedPoint × FixedPoint) :=
        match c.operands.filterMap FixedPoint.read? with
        | [last] => some (one, one, last)
        | [first, last] => some (first, one, last)
        | [first, step, last] => some (first, step, last)
        | _ => none
      match bounds, c.operands with
      | none, [] => misuse "seq" "missing operand".toList 1
      | none, operands =>
        misuse "seq" ("extra operand ".toList ++ quoted ((operands[3]?).getD [])) 1
      | some (first, step, last), operands =>
        if step.digits = 0 then
          let value := (operands[1]?).getD []
          misuse "seq" ("invalid Zero increment value: ".toList ++ quoted value) 1
        else
          let places := max first.places step.places
          let scale := max places last.places
          let shown (n : Int) : Octets :=
            placed places (n.tdiv (Nat.pow 10 (scale - places) : Nat))
          let texts := (series (step.scaled scale) (last.scaled scale) seriesLimit
            (first.scaled scale)).map shown
          let ends := [first, last].map fun x => (shown (x.scaled scale)).length
          let width := if c.has 'w' then ends.foldl max 0 else 0
          let texts := match c.value? 'f' with
            | some format => texts.map fun text => (printf format [text]).text
            | none => texts.map (zeroFilled width)
          if !texts.isEmpty then
            write 1 (((c.value? 's').getD ['\n']).intercalate texts ++ ['\n'])
          return 0

end JsonShell.Interpreter.Utility
