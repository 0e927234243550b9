import JsonShell.Text.Split
import JsonShell.Text.Utf8

/-!
# Texts of single bytes

Module scripts and what they work on need not be UTF-8.  In an interpreter a text is therefore a
sequence of *octets*: every character stands for the byte of its number, so that patterns, lengths
and cuts are about bytes, while ASCII texts read as they are.  `ofBytes` and `toBytes` lead in and
out, and nothing is lost on the way (`toBytes_ofBytes`).
-/

set_option autoImplicit false

namespace JsonShell.Interpreter

/-- A text whose characters stand for bytes. -/
abbrev Octets := List Char

namespace Octets

/-- The octets of bytes. -/
def ofBytes (bytes : Bytes) : Octets :=
  bytes.map fun b => Char.ofNat b.toNat

/-- The bytes that octets stand for. -/
def toBytes (text : Octets) : Bytes :=
  text.map fun c => UInt8.ofNat c.toNat

theorem toNat_ofNat (b : UInt8) : (Char.ofNat b.toNat).toNat = b.toNat := by
  have h : b.toNat < 256 := b.toNat_lt
  have hv : b.toNat.isValidChar := Or.inl (by omega)
  unfold Char.ofNat
  rw [dif_pos hv]
  rfl

/-- Bytes are not changed by a stay among octets. -/
theorem toBytes_ofBytes (bytes : Bytes) : toBytes (ofBytes bytes) = bytes := by
  simp only [toBytes, ofBytes, List.map_map]
  conv => rhs; rw [← List.map_id bytes]
  apply List.map_congr_left
  intro b _
  simp [toNat_ofNat]

/-- The octets of a text in UTF-8. -/
def ofString (s : String) : Octets :=
  ofBytes (Utf8.encode s)

/-- The text of octets, with U+FFFD for what is not UTF-8. -/
def toText (text : Octets) : String :=
  Utf8.decodeLossy (toBytes text)

/-- The octets of a natural number. -/
def natural (n : Nat) : Octets :=
  (toString n).toList

/-- The octets of an integer. -/
def integer (n : Int) : Octets :=
  (toString n).toList

/-- Octets as a key; names are ASCII and read as they are. -/
def key (text : Octets) : String :=
  String.ofList text

/-- The lines of a text without their line breaks. -/
def lines (text : Octets) : List Octets :=
  match Text.splitOn '\n' text with
  | pieces => if pieces.getLast? = some [] then pieces.dropLast else pieces

/-- Lines one after the other, each with its line break. -/
def unlines (lines : List Octets) : Octets :=
  lines.flatMap (· ++ ['\n'])

/-- The text without line breaks at its end. -/
def dropFinalBreaks (text : Octets) : Octets :=
  (text.reverse.dropWhile (· == '\n')).reverse

/-- Blanks between words of a line. -/
def isBlank (c : Char) : Bool :=
  c == ' ' || c == '\t'

/-- The white space of ASCII. -/
def isSpace (c : Char) : Bool :=
  c == ' ' || (9 ≤ c.toNat && c.toNat ≤ 13)

/-- The order of texts by their bytes. -/
def before : Octets → Octets → Bool
  | [], [] => false
  | [], _ :: _ => true
  | _ :: _, [] => false
  | a :: as, b :: bs => a.toNat < b.toNat || (a == b && before as bs)

/-- The texts in the order of their bytes. -/
def sorted (texts : List Octets) : List Octets :=
  texts.mergeSort fun a b => !before b a

/-- The words between runs of blanks and line breaks. -/
def words (text : Octets) : List Octets :=
  (Text.splitOn ' ' (text.map fun c => if isSpace c then ' ' else c)).filter (!·.isEmpty)

/-- The index of the first occurrence of a text. -/
def indexOf? (wanted : Octets) : Octets → Option Nat
  | [] => if wanted.isEmpty then some 0 else none
  | c :: rest =>
    if wanted.isPrefixOf (c :: rest) then some 0 else (indexOf? wanted rest).map (· + 1)

example : lines "a\n\nb".toList = ["a".toList, [], "b".toList] ∧ lines [] = [] := by
  decide +kernel
example : ofString "é" = ['\u00C3', '\u00A9'] ∧ toText (ofString "é") = "é" := by
  decide +kernel
example : before "ab".toList "b".toList = true ∧ before "a".toList "a".toList = false := by
  decide +kernel

end Octets

end JsonShell.Interpreter
