import JsonShell.Record
import JsonShell.Render.Table

/-!
# Showing a record

The final record of a command is shown between two line breaks: its whole object as indented JSON,
or the listing or the table of its output.  A record without an output has an empty listing and an
empty table.
-/

set_option autoImplicit false

namespace JsonShell.Record

/-- The text shown for the record, without the line breaks around it. -/
def body (colors : Bool) (r : Record) : String :=
  match r.display with
  | .raw => r.toValue.indented ++ "\n"
  | .pretty => ((r.output).map (Value.listing colors)).getD ""
  | .table => ((r.output).map (Value.table colors)).getD ""

/-- The text printed for the record. -/
def render (colors : Bool) (r : Record) : String :=
  "\n" ++ r.body colors ++ "\n"

end JsonShell.Record
