import JsonShell.File.Path
import JsonShell.Render.Listing
import JsonShell.Render.Paint

/-!
# Diagnostics

A diagnostic is a report of several lines: a title with a label, the place it is about, the line of
input with a mark under the part that is meant and a message beside the mark, then a hint and notes.
Without a line of input the message stands alone.
-/

set_option autoImplicit false

namespace JsonShell

/-- How bad it is. -/
inductive Level where
  | error
  | warning
deriving DecidableEq, Repr

/-- Where the input of a diagnostic came from. -/
inductive Location where
  /-- Typed, or given on the command line. -/
  | interactive
  /-- A line of a file, or a file as a whole. -/
  | file (path : Path) (line : Option Nat)
deriving DecidableEq, Repr

/-- A report for the user. -/
structure Diagnostic where
  level : Level
  label : String
  title : String
  location : Location
  /-- The line of input. -/
  context : Option String
  /-- The first marked character of the line and the number of marked characters; all of the line if
  nothing is said. -/
  underline : Option (Nat × Nat)
  message : Option String
  hint : Option String
  notes : List String
deriving DecidableEq, Repr

namespace Diagnostic

/-- A diagnostic of which only the title is known. -/
def titled (level : Level) (label title : String) : Diagnostic :=
  { level := level, label := label, title := title, location := .interactive
    context := none, underline := none, message := none, hint := none, notes := [] }

/-- The color of a level. -/
def levelColor : Level → String
  | .error => Paint.bold ++ Paint.red
  | .warning => Paint.bold ++ Paint.yellow

/-- The text of a location and the line number shown in the margin. -/
def place : Location → String × String
  | .interactive => ("entry:repl", "")
  | .file path (some n) => (path.text ++ ":" ++ toString n, toString n)
  | .file path none => (path.text, "")

/-- The number of characters before the mark and of those marked. -/
def marked (d : Diagnostic) (context : String) : Nat × Nat :=
  d.underline.getD (0, context.length)

/-- The lines of the input and of the message.  A mark of no length is left out together with the
message beside it. -/
def contextLines (colors : Bool) (d : Diagnostic) (margin blank bar : String) : List String :=
  match d.context with
  | some context =>
    let (start, length) := d.marked context
    let marks :=
      if 0 < length then
        [blank ++ " " ++ bar ++ " " ++ repeated " " start ++
          Paint.paint colors (levelColor d.level) (repeated "^" length) ++ " " ++ d.message.getD ""]
      else []
    (margin ++ " " ++ bar ++ " " ++ context) :: marks
  | none =>
    match d.message with
    | some message => [blank ++ " " ++ bar ++ " " ++ message]
    | none => []

/-- The lines of a diagnostic. -/
def lines (colors : Bool) (d : Diagnostic) : List String :=
  let bar := Paint.paint colors Paint.cyan "│"
  let (location, margin) := place d.location
  let blank := repeated " " margin.length
  let title :=
    Paint.paint colors (levelColor d.level) ("× " ++ d.label) ++ " " ++
      Paint.paint colors Paint.bold d.title
  let arrow := blank ++ " " ++ Paint.paint colors Paint.cyan "-->" ++ " " ++ location
  let hint :=
    match d.hint with
    | some hint =>
      [blank ++ " " ++ bar,
        blank ++ " " ++ bar ++ " " ++ Paint.paint colors Paint.bold "hint:" ++ " " ++ hint]
    | none => []
  let notes := d.notes.map fun note =>
    blank ++ " " ++ bar ++ " " ++ Paint.paint colors Paint.bold "note:" ++ " " ++ note
  [title, arrow, blank ++ " " ++ bar] ++ contextLines colors d margin blank bar ++ hint ++ notes ++
    [""]

/-- The text of a diagnostic, with an empty line after it. -/
def render (colors : Bool) (d : Diagnostic) : String :=
  Text.unlines (d.lines colors)

end Diagnostic

end JsonShell
