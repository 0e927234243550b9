import JsonShell.Json.Fault

/-!
# JSON strings

`readString` reads a string from just after its opening quote.  The bytes between the quotes are
taken as they are, escapes are replaced by the bytes of what they stand for, and the whole must be
UTF-8; that is checked only once the closing quote is found.
-/

set_option autoImplicit false

namespace JsonShell.Json

/-- The value of a hexadecimal digit, in either case. -/
def hexValue? (b : UInt8) : Option Nat :=
  let n := b.toNat
  if 48 ≤ n ∧ n ≤ 57 then some (n - 48)
  else if 65 ≤ n ∧ n ≤ 70 then some (n - 55)
  else if 97 ≤ n ∧ n ≤ 102 then some (n - 87)
  else none

/-- The value of four hexadecimal digits. -/
def hexQuad? (a b c d : UInt8) : Option Nat := do
  let a ← hexValue? a
  let b ← hexValue? b
  let c ← hexValue? c
  let d ← hexValue? d
  return ((a * 16 + b) * 16 + c) * 16 + d

/-- The first halves of surrogate pairs. -/
def isLeading (n : Nat) : Bool := 0xD800 ≤ n && n ≤ 0xDBFF

/-- The second halves of surrogate pairs. -/
def isTrailing (n : Nat) : Bool := 0xDC00 ≤ n && n ≤ 0xDFFF

/-- The character of a surrogate pair. -/
def pairValue (leading trailing : Nat) : Nat :=
  0x10000 + (leading - 0xD800) * 0x400 + (trailing - 0xDC00)

/-- What the escape of one letter stands for. -/
def shortEscape? (b : UInt8) : Option UInt8 :=
  if b = 34 ∨ b = 92 ∨ b = 47 then some b
  else if b = 98 then some 8
  else if b = 102 then some 12
  else if b = 110 then some 10
  else if b = 114 then some 13
  else if b = 116 then some 9
  else none

/-- Adds a character to bytes that are collected in reverse. -/
def pushCode (collected : Bytes) (n : Nat) : Bytes :=
  (String.utf8EncodeChar (Char.ofNat n)).reverse ++ collected

/-- The bytes up to the closing quote, onto those that are collected in reverse. -/
def stringBytes (collected : Bytes) : Bytes → Reading Bytes
  | [] => .error (.taken .endInString [])
  | b :: rest =>
    if b = 34 then .ok (collected.reverse, rest)
    else if b = 92 then
      match rest with
      | [] => .error (.taken .endInString [])
      | e :: rest =>
        if e = 117 then
          match rest with
          | h₁ :: h₂ :: h₃ :: h₄ :: rest =>
            match hexQuad? h₁ h₂ h₃ h₄ with
            | none => .error (.taken .invalidEscape rest)
            | some n =>
              if isTrailing n then .error (.taken .loneSurrogate rest)
              else if isLeading n then
                match rest with
                | [] => .error (.taken .endInString [])
                | s :: rest =>
                  if s ≠ 92 then .error (.taken .endInSurrogatePair rest)
                  else
                    match rest with
                    | [] => .error (.taken .endInString [])
                    | u :: rest =>
                      if u ≠ 117 then .error (.taken .endInSurrogatePair rest)
                      else
                        match rest with
                        | g₁ :: g₂ :: g₃ :: g₄ :: rest =>
                          match hexQuad? g₁ g₂ g₃ g₄ with
                          | none => .error (.taken .invalidEscape rest)
                          | some m =>
                            if isTrailing m then
                              stringBytes (pushCode collected (pairValue n m)) rest
                            else .error (.taken .loneSurrogate rest)
                        | _ => .error (.taken .endInString [])
              else stringBytes (pushCode collected n) rest
          | _ => .error (.taken .endInString [])
        else
          match shortEscape? e with
          | some x => stringBytes (x :: collected) rest
          | none => .error (.taken .invalidEscape rest)
    else if b < 32 then .error (.taken .controlCharacter rest)
    else stringBytes (b :: collected) rest

/-- The string whose opening quote has been taken. -/
def readString (bytes : Bytes) : Reading String :=
  match stringBytes [] bytes with
  | .error stop => .error stop
  | .ok (content, rest) =>
    match Utf8.decode? content with
    | some s => .ok (s, rest)
    | none =>
      .error ⟨.invalidCodePoint, rest.length, content.length - Utf8.validPrefixLength content⟩

end JsonShell.Json
