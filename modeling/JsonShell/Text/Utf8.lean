/-!
# Reading bytes as UTF-8

Files and the output of modules are bytes.  `scan` reads bytes from left to right and cuts them into
characters and *faults*.  A fault is a longest run of bytes that begins like a character and goes
wrong: a leading byte with the tails that fit, up to the first byte that does not.  The byte that
does not fit is read afresh.

Three readings come from the scan: `decode?` accepts only bytes without faults, `decodeLossy` puts
U+FFFD for each fault, and `validPrefixLength` counts the bytes before the first one.
-/

set_option autoImplicit false

namespace JsonShell

/-- A sequence of bytes, such as the contents of a file. -/
abbrev Bytes := List UInt8

namespace Utf8

/-- A part of the bytes that were read. -/
inductive Piece where
  /-- A well-formed character. -/
  | char (c : Char)
  /-- So many bytes that begin a character and do not complete it. -/
  | fault (length : Nat)
deriving DecidableEq, Repr

/-- A character that has begun: the number of tails still owed, the interval that the next one must
lie in, the bits collected, and the number of bytes read. -/
structure Pending where
  owed : Nat
  low : Nat
  high : Nat
  bits : Nat
  read : Nat
deriving DecidableEq, Repr

/-- What a byte begins: a character of its own, a longer character, or nothing. -/
inductive Start where
  | whole (c : Char)
  | more (p : Pending)
  | bad
deriving DecidableEq, Repr

/-- The leading bytes.  The interval of the second byte excludes overlong forms (after `E0` and
`F0`), surrogates (after `ED`) and values above U+10FFFF (after `F4`). -/
def start (b : UInt8) : Start :=
  let n := b.toNat
  if n < 0x80 then .whole (Char.ofNat n)
  else if 0xC2 ≤ n ∧ n ≤ 0xDF then .more ⟨1, 0x80, 0xBF, n - 0xC0, 1⟩
  else if n = 0xE0 then .more ⟨2, 0xA0, 0xBF, 0, 1⟩
  else if n = 0xED then .more ⟨2, 0x80, 0x9F, 0xD, 1⟩
  else if 0xE1 ≤ n ∧ n ≤ 0xEF then .more ⟨2, 0x80, 0xBF, n - 0xE0, 1⟩
  else if n = 0xF0 then .more ⟨3, 0x90, 0xBF, 0, 1⟩
  else if 0xF1 ≤ n ∧ n ≤ 0xF3 then .more ⟨3, 0x80, 0xBF, n - 0xF0, 1⟩
  else if n = 0xF4 then .more ⟨3, 0x80, 0x8F, 4, 1⟩
  else .bad

/-- The characters and faults of the bytes; `pending` is the character that is being read. -/
def scanFrom : Option Pending → Bytes → List Piece
  | none, [] => []
  | some p, [] => [.fault p.read]
  | none, b :: rest =>
    match start b with
    | .whole c => .char c :: scanFrom none rest
    | .more p => scanFrom (some p) rest
    | .bad => .fault 1 :: scanFrom none rest
  | some p, b :: rest =>
    if p.low ≤ b.toNat ∧ b.toNat ≤ p.high then
      let bits := p.bits * 64 + (b.toNat - 0x80)
      if p.owed ≤ 1 then .char (Char.ofNat bits) :: scanFrom none rest
      else scanFrom (some ⟨p.owed - 1, 0x80, 0xBF, bits, p.read + 1⟩) rest
    else
      .fault p.read ::
        match start b with
        | .whole c => .char c :: scanFrom none rest
        | .more q => scanFrom (some q) rest
        | .bad => .fault 1 :: scanFrom none rest

/-- The characters and faults of the bytes, in order. -/
def scan (bytes : Bytes) : List Piece :=
  scanFrom none bytes

/-- The character shown for a piece; a fault is shown as the replacement character. -/
def Piece.shown : Piece → Char
  | .char c => c
  | .fault _ => Char.ofNat 0xFFFD

/-- The character of a piece that is one. -/
def Piece.char? : Piece → Option Char
  | .char c => some c
  | .fault _ => none

/-- The bytes of a text. -/
def encode (s : String) : Bytes :=
  s.toList.flatMap String.utf8EncodeChar

/-- The text that the bytes encode, if they are well formed. -/
def decode? (bytes : Bytes) : Option String :=
  ((scan bytes).mapM Piece.char?).map String.ofList

/-- The text of the bytes with U+FFFD for each fault. -/
def decodeLossy (bytes : Bytes) : String :=
  String.ofList ((scan bytes).map Piece.shown)

/-- The number of bytes taken by the characters before the first fault. -/
def bytesBeforeFault : List Piece → Nat
  | .char c :: rest => c.utf8Size + bytesBeforeFault rest
  | _ => 0

/-- The length of the longest well-formed beginning of the bytes. -/
def validPrefixLength (bytes : Bytes) : Nat :=
  bytesBeforeFault (scan bytes)

example : decode? (encode "é名🦖") = some "é名🦖" := by decide +kernel
example : decodeLossy [0x61, 0xE5, 0x90, 0x62] = "a\uFFFDb" := by decide +kernel
example : decodeLossy [0xED, 0xA0, 0x80] = "\uFFFD\uFFFD\uFFFD" := by decide +kernel
example : validPrefixLength [0x61, 0xC3, 0xA9, 0xFF, 0x62] = 3 := by decide +kernel

end Utf8

end JsonShell
