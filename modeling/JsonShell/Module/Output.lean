import JsonShell.File.Fault
import JsonShell.Json.Parser
import JsonShell.Json.Printer
import JsonShell.Record

/-!
# What modules print

A module prints a single JSON value: an object, which is its record, or `null` for no record.  All
else is a fault of the module, and so is an end with a status other than zero.
-/

set_option autoImplicit false

namespace JsonShell

/-- How a process ended: with a code, or by a signal, which may have a name. -/
inductive ExitStatus where
  | code (n : Nat)
  | signal (number : Nat) (name : Option String)
deriving DecidableEq, Repr

/-- The text of an exit status. -/
def ExitStatus.message : ExitStatus → String
  | .code n => "exit status: " ++ toString n
  | .signal number none => "signal: " ++ toString number
  | .signal number (some name) => "signal: " ++ toString number ++ " (" ++ name ++ ")"

/-- Why a module that was found gave no answer. -/
inductive ModuleFault where
  /-- The interpreter could not be started. -/
  | cannotStart (interpreter : String) (fault : FileFault)
  /-- The module ended with a status other than zero. -/
  | exited (status : ExitStatus)
  /-- What it printed is no JSON. -/
  | invalidJson (error : Json.SyntaxError)
  /-- What it printed is JSON, but neither an object nor null. -/
  | notObject (value : Value)
deriving DecidableEq

/-- The text of a module's fault. -/
def ModuleFault.message : ModuleFault → String
  | .cannotStart interpreter fault => "cannot start " ++ interpreter ++ ": " ++ fault.message
  | .exited status => "module exited with " ++ status.message
  | .invalidJson error => "invalid JSON output: " ++ error.message
  | .notObject value => "expected a JSON object, got " ++ value.compact

/-- The answer of a module that printed these bytes. -/
def Record.ofOutput (printed : Bytes) : Except ModuleFault (Option Record) :=
  match Value.parseBytes printed with
  | .error e => .error (.invalidJson e)
  | .ok (.map entries) => .ok (some (.ofEntries entries))
  | .ok .null => .ok none
  | .ok v => .error (.notObject v)

end JsonShell
