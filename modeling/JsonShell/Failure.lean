import JsonShell.File.Fault
import JsonShell.File.Path

/-!
# Failures of commands

A command fails with one of these causes.  None of them ends the shell.  A failure inside a script
carries the script line that was being run around the failure of that line, so a failure inside
scripts that run each other has one layer for each of them, the outermost script outermost.
-/

set_option autoImplicit false

namespace JsonShell

/-- Why a command failed. -/
inductive Failure where
  /-- No module has this name. -/
  | moduleNotFound (name : String)
  /-- The module ran, or should have run, and gave no result. -/
  | executionFailed (name : String) (path : Path) (reason : String)
  /-- The source of a loop is no range. -/
  | invalidRange (reason : String)
  /-- A stage of a pipeline is neither a directive nor a module. -/
  | unknownStage (name : String)
  /-- A line of a script failed. -/
  | script (path : Path) (line : Nat) (command : String) (cause : Failure)
  /-- A built-in command failed. -/
  | builtin (reason : String)
  /-- A file could not be read, or a text could not be written. -/
  | io (fault : FileFault)
deriving DecidableEq, Repr

namespace Failure

/-- The text of a failure. -/
def message : Failure → String
  | .moduleNotFound name => "module not found: " ++ name
  | .executionFailed name path reason =>
    "module '" ++ name ++ "' failed (" ++ path.text ++ "): " ++ reason
  | .invalidRange reason => reason
  | .unknownStage name => "unknown pipeline operator or module: " ++ name
  | .script path line command cause =>
    path.text ++ ":" ++ toString line ++ ": `" ++ command ++ "`: " ++ cause.message
  | .builtin reason => reason
  | .io fault => fault.message

/-- The failures inside this one, from the outside in. -/
def causes : Failure → List Failure
  | .script _ _ _ cause => cause :: cause.causes
  | _ => []

/-- The failure without its script layers. -/
def root : Failure → Failure
  | .script _ _ _ cause => cause.root
  | failure => failure

example : (script ⟨"a"⟩ 2 "b" (script ⟨"b"⟩ 1 "m" (moduleNotFound "m"))).message =
    "a:2: `b`: b:1: `m`: module not found: m" := by decide +kernel

end Failure

end JsonShell
