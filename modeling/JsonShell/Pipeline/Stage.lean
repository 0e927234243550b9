import JsonShell.Json.Printer
import JsonShell.Line.Token
import JsonShell.Record
import JsonShell.Text.Blank
import JsonShell.Text.Split

/-!
# Stages of pipelines

A stage after the head either changes the current record, by keeping some fields of its output or by
choosing its display, or calls a module.  The call gets the stage's own arguments and then the
current output, turned into arguments by `project`.
-/

set_option autoImplicit false

namespace JsonShell

/-- A stage after the head. -/
inductive Stage where
  /-- Keeps the named fields of the output. -/
  | select (fields : List String)
  /-- Chooses a display. -/
  | display (mode : Display)
  /-- Calls a module. -/
  | call (name : String) (args : List String)
deriving DecidableEq, Repr

/-- The field names in the words after `select`: separated by commas, none for a star alone. -/
def selectFields (args : List String) : List String :=
  let joined := Text.trim (Text.join " " args)
  if joined = "*" then []
  else ((Text.splitString ',' joined).map Text.trim).filter (· ≠ "")

namespace Stage

/-- The stage that words make. -/
def ofWords? : List String → Option Stage
  | [] => none
  | op :: args =>
    if op = "select" then some (.select (selectFields args))
    else if op = "pp" then some (.display .pretty)
    else if op = "tt" then some (.display .table)
    else some (.call op args)

/-- The stage that a segment is, unless it is blank. -/
def parse? (segment : String) : Option Stage :=
  ofWords? (tokenize (Text.trim segment))

end Stage

namespace Record

/-- Keeps the fields of an output that is an object; a missing field is skipped.  Other outputs are
left alone, and so is every output when no field is named. -/
def select (fields : List String) (r : Record) : Record :=
  if fields.isEmpty then r
  else
    match r.output with
    | some (.map entries) =>
      let kept := fields.filterMap fun f => (Dictionary.find? f entries).map fun v => (f, v)
      { r with output := some (.map (Dictionary.ofList kept)) }
    | _ => r

end Record

/-- What a stage does to a record by itself; a module does nothing by itself. -/
def Stage.apply (stage : Stage) (r : Record) : Record :=
  match stage with
  | .select fields => r.select fields
  | .display mode => { r with display := mode }
  | .call _ _ => r

/-- The arguments that an output turns into: one for each element of a list, one for a container as
JSON or for a scalar, none for null. -/
def project (output : Option Value) : List String :=
  match output with
  | none => []
  | some .null => []
  | some (.list items) => items.map Value.text
  | some (.map entries) => [Value.compact (.map entries)]
  | some v => [v.text]

example : Stage.parse? "select a, b,c" = some (.select ["a", "b", "c"]) := by decide +kernel
example : Stage.parse? " split ." = some (.call "split" ["."]) := by decide +kernel
example : project (some (.list [.string "x", .ofInt 2, .map [("k", .null)]])) =
    ["x", "2", "\x7b\"k\":null\x7d"] := by decide +kernel

end JsonShell
