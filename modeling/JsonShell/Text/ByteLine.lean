import JsonShell.Text.Utf8

/-!
# Lines of bytes

Standard input and the messages of modules are bytes that are read line by line, each line being
decoded on its own.  A line break is a newline together with one carriage return before it; bytes
after the last line break are a line if there are any.
-/

set_option autoImplicit false

namespace JsonShell.Bytes

/-- The bytes without a carriage return at their end. -/
def dropReturn (bytes : Bytes) : Bytes :=
  if bytes.getLast? = some 13 then bytes.dropLast else bytes

/-- The lines of bytes; `line` is what has been read of the current one, in reverse. -/
def linesFrom (line : Bytes) : Bytes → List Bytes
  | [] => if line.isEmpty then [] else [line.reverse]
  | b :: rest =>
    if b = 10 then dropReturn line.reverse :: linesFrom [] rest else linesFrom (b :: line) rest

/-- The lines of bytes without their line breaks. -/
def lines (bytes : Bytes) : List Bytes :=
  linesFrom [] bytes

/-- The texts of the lines before the first one that is not UTF-8, and whether there is such a
line. -/
def textLines (bytes : Bytes) : List String × Bool :=
  let decoded := (lines bytes).map Utf8.decode?
  (decoded.takeWhile Option.isSome |>.filterMap id, decoded.any Option.isNone)

example : textLines [97, 13, 10, 10, 98, 13] = (["a", "", "b\r"], false) := by decide +kernel
example : textLines [97, 10, 255, 10, 98] = (["a"], true) := by decide +kernel

end JsonShell.Bytes
