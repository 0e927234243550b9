import JsonShell.File.Tree

/-!
# The failure log

Failures are also written at the end of a log file, each with the time at which it happened.  There
are two kinds of entries: for a module that gave no result and for a script line that failed.  A log
that cannot be written is passed over in silence.
-/

set_option autoImplicit false

namespace JsonShell

/-- A failure as it is logged. -/
inductive LogEntry where
  | execution (command : String) (file : Path) (error : String)
  | script (path : Path) (line : Nat) (command : String) (error : String)
deriving DecidableEq, Repr

namespace LogEntry

/-- The text of an entry. -/
def text (time : String) : LogEntry → String
  | .execution command file error =>
    "[" ++ time ++ "] EXECUTION_ERROR\n  Command : " ++ command ++ "\n  Module  : " ++
      file.text ++ "\n  Error   : " ++ error ++
      "\n  Hint    : Ensure module outputs only valid JSON\n" ++
      "----------------------------------------\n"
  | .script path line command error =>
    "TIME: " ++ time ++ "\nSCRIPT: " ++ path.text ++ "\nLINE: " ++ toString line ++
      "\nCOMMAND: " ++ command ++ "\nERROR: " ++ error ++ "\n---\n"

end LogEntry

/-- The files after an entry has been written to the log at a path, if it could be. -/
def FileTree.log (t : FileTree) (path : Path) (time : String) (entry : LogEntry) : FileTree :=
  let prepared := (t.makeParent path).toOption.getD t
  ((prepared.append path (Utf8.encode (entry.text time))).toOption).getD prepared

end JsonShell
