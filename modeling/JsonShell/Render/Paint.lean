/-!
# Terminal colors

A painted text stands between the escape sequence of its color and the one that resets.  Without
colors it stands for itself.
-/

set_option autoImplicit false

namespace JsonShell.Paint

/-- Back to plain text. -/
def reset : String := "\x1b[0m"
/-- Bold text. -/
def bold : String := "\x1b[1m"
/-- Faint text. -/
def dim : String := "\x1b[2m"
/-- Red text. -/
def red : String := "\x1b[31m"
/-- Green text. -/
def green : String := "\x1b[32m"
/-- Yellow text. -/
def yellow : String := "\x1b[33m"
/-- Blue text. -/
def blue : String := "\x1b[34m"
/-- Magenta text. -/
def magenta : String := "\x1b[35m"
/-- Cyan text. -/
def cyan : String := "\x1b[36m"

/-- The text in a color, if there are colors. -/
def paint (colors : Bool) (code text : String) : String :=
  if colors then code ++ text ++ reset else text

@[simp] theorem paint_false (code text : String) : paint false code text = text := rfl

end JsonShell.Paint
