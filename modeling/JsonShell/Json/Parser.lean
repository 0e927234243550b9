import JsonShell.Json.Printer
import JsonShell.Json.NumberLiteral
import JsonShell.Json.StringLiteral

/-!
# Reading JSON

`Value.parse` reads a whole text as one value.  At most 127 lists and objects may be open at a time,
and that bound is what the recursion of `readValue` runs on: a value inside a container is read with
one fewer.  The elements of a container are read by a loop that takes at least one byte each time
round, so the number of bytes bounds it.
-/

set_option autoImplicit false

namespace JsonShell.Json

/-- The four characters that may stand between tokens. -/
def isSpace (b : UInt8) : Bool := b == 32 || b == 9 || b == 10 || b == 13

/-- What follows the white space. -/
def skipSpace (bytes : Bytes) : Bytes := bytes.dropWhile isSpace

/-- Takes the bytes of a word one by one. -/
def readWord (word : Bytes) (value : Value) (bytes : Bytes) : Reading Value :=
  match word, bytes with
  | [], rest => .ok (value, rest)
  | _ :: _, [] => .error (.taken .endInValue [])
  | w :: word, b :: rest =>
    if b = w then readWord word value rest else .error (.taken .expectedIdent rest)

/-- The elements of a list from just after its bracket or after an element. -/
def readItems (item : Bytes → Reading Value) (first : Bool) : Nat → Bytes → Reading (List Value)
  | 0, _ => .error (.taken .endInList [])
  | fuel + 1, bytes =>
    match skipSpace bytes with
    | [] => .error (.refused .endInList [])
    | b :: rest =>
      let itemAt (start : Bytes) : Reading (List Value) :=
        match item start with
        | .error stop => .error stop
        | .ok (v, rest) =>
          (readItems item false fuel rest).map fun (vs, rest) => (v :: vs, rest)
      if b = 93 then .ok ([], rest)
      else if first then itemAt (b :: rest)
      else if b = 44 then
        match skipSpace rest with
        | [] => .error (.refused .endInValue [])
        | c :: past =>
          if c = 93 then .error (.refused .trailingComma (c :: past)) else itemAt (c :: past)
      else .error (.refused .expectedListEnd (b :: rest))

/-- One entry of an object, from the quote of its key. -/
def readEntry (item : Bytes → Reading Value) (bytes : Bytes) : Reading (String × Value) :=
  match bytes with
  | [] => .error (.refused .endInValue [])
  | 34 :: rest =>
    match readString rest with
    | .error stop => .error stop
    | .ok (key, rest) =>
      match skipSpace rest with
      | [] => .error (.refused .endInObject [])
      | 58 :: rest => (item rest).map fun (value, rest) => ((key, value), rest)
      | other => .error (.refused .expectedColon other)
  | other => .error (.refused .keyNotString other)

/-- The entries of an object, added to those already read, from just after its brace or after an
entry.  A later entry takes the place of an earlier one with the same key. -/
def readEntries (item : Bytes → Reading Value) (first : Bool) :
    Nat → Dictionary Value → Bytes → Reading (Dictionary Value)
  | 0, _, _ => .error (.taken .endInObject [])
  | fuel + 1, entries, bytes =>
    match skipSpace bytes with
    | [] => .error (.refused .endInObject [])
    | b :: rest =>
      let entryAt (start : Bytes) : Reading (Dictionary Value) :=
        match readEntry item start with
        | .error stop => .error stop
        | .ok ((key, value), rest) =>
          readEntries item false fuel (Dictionary.insert key value entries) rest
      if b = 125 then .ok (entries, rest)
      else if first then entryAt (b :: rest)
      else if b = 44 then
        match skipSpace rest with
        | [] => .error (.refused .endInValue [])
        | c :: past =>
          if c = 125 then .error (.refused .trailingComma (c :: past)) else entryAt (c :: past)
      else .error (.refused .expectedObjectEnd (b :: rest))

/-- A value whose containers hold what `inner` reads; without `inner` no container may open. -/
def readWith (inner : Option (Bytes → Reading Value)) (bytes : Bytes) : Reading Value :=
  match skipSpace bytes with
  | [] => .error (.refused .endInValue [])
  | b :: rest =>
    if b = 110 then readWord [117, 108, 108] .null rest
    else if b = 116 then readWord [114, 117, 101] (.bool true) rest
    else if b = 102 then readWord [97, 108, 115, 101] (.bool false) rest
    else if b = 34 then (readString rest).map fun (s, rest) => (.string s, rest)
    else if b = 45 then (readNumber true rest).map fun (n, rest) => (.number n, rest)
    else if isDigit b then (readNumber false (b :: rest)).map fun (n, rest) => (.number n, rest)
    else if b = 91 then
      match inner with
      | none => .error (.refused .tooDeep (b :: rest))
      | some item =>
        (readItems item true (rest.length + 1) rest).map fun (vs, rest) => (.list vs, rest)
    else if b = 123 then
      match inner with
      | none => .error (.refused .tooDeep (b :: rest))
      | some item =>
        (readEntries item true (rest.length + 1) [] rest).map fun (es, rest) => (.map es, rest)
    else .error (.refused .expectedValue (b :: rest))

/-- A value with at most `depth` containers open at a time. -/
def readValue : Nat → Bytes → Reading Value
  | 0 => readWith none
  | depth + 1 => readWith (some (readValue depth))

/-- How many containers may be open at a time. -/
def maxDepth : Nat := 127

/-- A value with nothing but white space after it. -/
def readDocument (bytes : Bytes) : Except Stop Value :=
  match readValue maxDepth bytes with
  | .error stop => .error stop
  | .ok (value, rest) =>
    match skipSpace rest with
    | [] => .ok value
    | more => .error (.refused .trailingCharacters more)

end JsonShell.Json

namespace JsonShell.Value

open Json

/-- The value that the bytes are the text of. -/
def parseBytes (bytes : Bytes) : Except SyntaxError Value :=
  match readDocument bytes with
  | .ok value => .ok value
  | .error stop => .error (stop.locate bytes)

/-- The value that a text denotes. -/
def parse (s : String) : Except SyntaxError Value :=
  parseBytes (Utf8.encode s)

example : (parse " [1, \x7b\"k\": null\x7d] ").toOption =
    some (.list [.ofInt 1, .map [("k", .null)]]) := by decide +kernel
example : (parse "[1,\n]").toOption = none := by decide +kernel

end JsonShell.Value
