import JsonShell.Json.Value

/-!
# Records

A record is what a module answers with: an output, a status, and whatever else its JSON object
holds.  The keys `output` and `status` of the object are the conventional ones; a status that is not
a string is no status and stays with the rest.  A record also carries the way it is displayed, which
is no part of its object.
-/

set_option autoImplicit false

namespace JsonShell

/-- The way the final record of a command is shown. -/
inductive Display where
  | raw
  | pretty
  | table
deriving DecidableEq, Repr

/-- The answer of a module or of a literal. -/
structure Record where
  output : Option Value
  status : Option String
  display : Display
  extra : Dictionary Value
deriving DecidableEq

namespace Record

/-- A record with an output and the status `success`. -/
def success (output : Value) : Record :=
  ⟨some output, some "success", .raw, []⟩

/-- The record of a JSON object. -/
def ofEntries (entries : Dictionary Value) : Record :=
  let output := Dictionary.find? "output" entries
  let rest := Dictionary.erase "output" entries
  match Dictionary.find? "status" entries with
  | some (.string s) => ⟨output, some s, .raw, Dictionary.erase "status" rest⟩
  | _ => ⟨output, none, .raw, rest⟩

/-- The entries of the JSON object of a record. -/
def entries (r : Record) : Dictionary Value :=
  let withOutput :=
    match r.output with
    | some v => Dictionary.insert "output" v r.extra
    | none => r.extra
  match r.status with
  | some s => Dictionary.insert "status" (.string s) withOutput
  | none => withOutput

/-- The JSON object of a record. -/
def toValue (r : Record) : Value :=
  .map r.entries

/-- The record of a value: that of an object, or success with any other value. -/
def ofValue (v : Value) : Record :=
  match v.entries? with
  | some entries => ofEntries entries
  | none => success v

example : ofEntries [("a", .null), ("output", .ofInt 1), ("status", .null)] =
    ⟨some (.ofInt 1), none, .raw, [("a", .null), ("status", .null)]⟩ := by decide +kernel

end Record

end JsonShell
