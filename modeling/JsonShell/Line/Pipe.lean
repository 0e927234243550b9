import JsonShell.Text.Split

/-!
# Pipes

A pipe cuts a line into segments unless a backslash stands right before it.  `hasPipe` looks for
such a pipe; `segments` cuts the line there and, inside a segment, writes a pipe for a backslash and
a pipe.  Segments are not trimmed and may be empty.
-/

set_option autoImplicit false

namespace JsonShell

namespace Pipe

/-- Looks for a pipe that does not follow a backslash; `previous` stands before the text. -/
def occursAfter (previous : Char) : List Char → Bool
  | [] => false
  | c :: rest => (c == '|' && previous != '\\') || occursAfter c rest

/-- The segments of a line. -/
def segmentChars : List Char → List (List Char)
  | [] => [[]]
  | '\\' :: '|' :: rest => Text.consFirst '|' (segmentChars rest)
  | c :: rest =>
    if c = '|' then [] :: segmentChars rest else Text.consFirst c (segmentChars rest)

/-- A segment with a backslash before each of its pipes. -/
def escape (cs : List Char) : List Char :=
  cs.flatMap fun c => if c = '|' then ['\\', '|'] else [c]

end Pipe

/-- The line has a pipe that no backslash escapes. -/
def hasPipe (line : String) : Bool :=
  Pipe.occursAfter ' ' line.toList

/-- The segments of a line, at least one. -/
def segments (line : String) : List String :=
  (Pipe.segmentChars line.toList).map String.ofList

theorem Pipe.segmentChars_ne_nil (cs : List Char) : segmentChars cs ≠ [] := by
  fun_cases segmentChars cs with
  | case1 => simp
  | case2 rest => exact Text.consFirst_ne_nil _ _
  | case3 rest h => simp
  | case4 c rest h hc => exact Text.consFirst_ne_nil _ _

example : segments "a || b |" = ["a ", "", " b ", ""] := by decide +kernel
example : segments "echo a\\|b | pp" = ["echo a|b ", " pp"] := by decide +kernel

end JsonShell
