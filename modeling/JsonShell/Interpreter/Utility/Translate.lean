import JsonShell.Interpreter.Pattern
import JsonShell.Interpreter.Print
import JsonShell.Interpreter.Utility.Basic

/-!
# Translating bytes

`tr` replaces, removes and squeezes bytes.  Its sets are written as bytes one after the other, with
escapes, ranges, classes and repetitions among them.
-/

set_option autoImplicit false

namespace JsonShell.Interpreter.Utility

open Shell

/-- A piece of a written set. -/
inductive SetPiece where
  | byte (c : Char)
  | range (low high : Char)
  | ofClass (name : String)
  /-- A byte so many times, or as often as the other set needs it. -/
  | repeated (c : Char) (count : Option Nat)

/-- The byte at the start of a written set, which may be an escape, and what follows. -/
def setByte? (text : Octets) : Option (Char × Octets) :=
  match text with
  | [] => none
  | '\\' :: rest =>
    let (c, length) := escape rest
    match length, rest with
    | 0, d :: rest => some (d, rest)
    | 0, [] => some ('\\', [])
    | n, rest => some (c, rest.drop n)
  | c :: rest => some (c, rest)

/-- The text between an opening bracket with a mark and the same mark with a closing bracket. -/
def between? (mark : Char) (text : Octets) : Option (Octets × Octets) :=
  match text with
  | '[' :: c :: rest =>
    if c == mark then
      (Octets.indexOf? [mark, ']'] rest).map fun n => (rest.take n, rest.drop (n + 2))
    else none
  | _ => none

/-- The repetition at the start of a text, and what follows. -/
def repetition? (text : Octets) : Option (SetPiece × Octets) :=
  match text with
  | '[' :: rest =>
    match setByte? rest with
    | some (c, '*' :: rest) =>
      let digits := rest.takeWhile Char.isDigit
      match rest.drop digits.length with
      | ']' :: rest =>
        let base := if digits.head? == some '0' then 8 else 10
        let count := digitsValue base digits
        some (.repeated c (if count = 0 then none else some count), rest)
      | _ => none
    | _ => none
  | _ => none

/-- The pieces of a written set. -/
def setPieces : Nat → Octets → Except Octets (List SetPiece)
  | 0, _ => .ok []
  | fuel + 1, text =>
    match text with
    | [] => .ok []
    | text =>
      match between? ':' text, between? '=' text, repetition? text with
      | some (name, rest), _, _ => do
        let name := String.ofList name
        if classNames.contains name then return .ofClass name :: (← setPieces fuel rest)
        else .error ("invalid character class '".toList ++ name.toList ++ ['\''])
      | none, some ([c], rest), _ => do return .byte c :: (← setPieces fuel rest)
      | none, _, some (piece, rest) => do return piece :: (← setPieces fuel rest)
      | none, _, none =>
        match setByte? text with
        | none => .ok []
        | some (low, '-' :: c :: rest) =>
          match setByte? (c :: rest) with
          | none => .ok [.byte low]
          | some (high, rest) =>
            if high < low then
              .error ("range-endpoints of '".toList ++ [low, '-', high] ++
                "' are in reverse collating sequence order".toList)
            else do return .range low high :: (← setPieces fuel rest)
        | some (c, rest) => do return .byte c :: (← setPieces fuel rest)

/-- All bytes in order. -/
def allBytes : Octets :=
  (List.range 256).map Char.ofNat

/-- The bytes of a piece, where `filler` is how often a byte without a count is repeated. -/
def SetPiece.bytes (filler : Nat) : SetPiece → Octets
  | .byte c => [c]
  | .range low high => allBytes.filter fun c => low ≤ c && c ≤ high
  | .ofClass name => allBytes.filter (inClass name)
  | .repeated c count => List.replicate (count.getD filler) c

/-- The bytes of a set. -/
def setBytes (filler : Nat) (pieces : List SetPiece) : Octets :=
  pieces.flatMap (SetPiece.bytes filler)

/-- The bytes of a second set, which is made at least as long as the first one. -/
def fillingBytes (length : Nat) (pieces : List SetPiece) (truncates : Bool) : Octets :=
  let bytes := setBytes (length - (setBytes 0 pieces).length) pieces
  match bytes.getLast? with
  | some last => if truncates then bytes else bytes ++ List.replicate (length - bytes.length) last
  | none => bytes

/-- Takes neighbours of a set that are the same as one. -/
def squeeze (set : Octets) : Octets → Octets
  | [] => []
  | [c] => [c]
  | c :: d :: rest =>
    if c == d && set.contains c then squeeze set (d :: rest) else c :: squeeze set (d :: rest)

/-- The byte that takes the place of another one: the last one that the sets say. -/
def translated (table : List (Char × Char)) (c : Char) : Char :=
  (table.lookup c).getD c

/-- The sets that operands write, the first one perhaps turned into all other bytes. -/
def setsOf (complement : Bool) (operands : List Octets) :
    Except Octets (Octets × List SetPiece) := do
  let read (text : Octets) : Except Octets (List SetPiece) := setPieces (text.length + 1) text
  let first ← read (operands.headD [])
  let second ← read ((operands[1]?).getD [])
  let bytes := setBytes 0 first
  return (if complement then allBytes.filter fun c => !bytes.contains c else bytes, second)

/-- `tr`. -/
def tr : Utility := fun _ args =>
  let g : Grammar := ⟨"cCdst", [("complement", 'c'), ("delete", 'd'), ("squeeze-repeats", 's'),
    ("truncate-set1", 't')]⟩
  withCall "tr" g 1 true args fun c => do
    let deletes := c.has 'd'
    let squeezes := c.has 's'
    let needed := if deletes == squeezes then 2 else 1
    match c.operands with
    | [] => misuse "tr" "missing operand".toList 1
    | operands =>
      if operands.length < needed then
        say "tr" ("missing operand after ".toList ++ quoted (operands.headD []))
        write 2 (if deletes then
          "Two strings must be given when both deleting and squeezing repeats.\n"
          else "Two strings must be given when translating.\n").toList
        write 2 "Try 'tr --help' for more information.\n".toList
        return 1
      else if 2 < operands.length || (deletes && !squeezes && 1 < operands.length) then
        say "tr" ("extra operand ".toList ++ quoted ((operands[needed]?).getD []))
        if needed = 1 then
          write 2 ("Only one string may be given when deleting without squeezing repeats.\n").toList
        write 2 "Try 'tr --help' for more information.\n".toList
        return 1
      else
        match setsOf (c.has 'c' || c.has 'C') operands with
        | .error message =>
          say "tr" message
          return 1
        | .ok (first, second) =>
          let text := (← readAll? 0).getD []
          let filling := fillingBytes first.length second (c.has 't')
          let text :=
            if deletes then text.filter fun c => !first.contains c
            else if operands.length = 1 then text
            else text.map (translated (first.zip filling).reverse)
          let squeezed := if operands.length = 1 then first else setBytes first.length second
          write 1 (if squeezes then squeeze squeezed text else text)
          return 0

end JsonShell.Interpreter.Utility
