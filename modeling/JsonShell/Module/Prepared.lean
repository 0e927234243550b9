import JsonShell.Dictionary
import JsonShell.Module.Output
import JsonShell.Module.Runner

/-!
# Prepared modules

A runner for trying out a shell without processes.  Each module has a prepared behavior: it prints
fixed bytes, or other bytes at each call, or fails, or answers with its arguments.  A module is
found if it has a behavior, whatever its name is made of.
-/

set_option autoImplicit false

namespace JsonShell

/-- What a prepared module does when it is called. -/
inductive Behavior where
  /-- Prints these bytes. -/
  | prints (bytes : Bytes)
  /-- Prints the first of these bytes and keeps the others for later calls; without bytes there is
  no record. -/
  | printsNext (outputs : List Bytes)
  /-- Fails for this reason. -/
  | fails (reason : String)
  /-- Fails with a fault of files. -/
  | faults (fault : FileFault)
  /-- Answers with its arguments, joined by spaces. -/
  | joinsArgs
  /-- Answers with the list of its arguments. -/
  | listsArgs
  /-- Prints its arguments, joined by spaces. -/
  | printsArgs
  /-- Gives no record. -/
  | nothing
deriving DecidableEq, Repr

/-- Prepared modules and where they are said to be. -/
structure Prepared where
  modules : Dictionary Behavior
  directory : Path
  paths : List Path
  extension : String

namespace Prepared

/-- The file name of a module. -/
def fileName (p : Prepared) (name : String) : String :=
  name ++ "." ++ p.extension

/-- Where a module is said to be. -/
def pathOf (p : Prepared) (name : String) : Path :=
  p.directory.join (p.fileName name)

/-- The path of a module that has a behavior. -/
def find? (p : Prepared) (name : String) : Option Path :=
  (Dictionary.find? name p.modules).map fun _ => p.pathOf name

/-- The answer of a module that printed these bytes. -/
def answerOf (p : Prepared) (name : String) (printed : Bytes) : Except Failure (Option Record) :=
  match Record.ofOutput printed with
  | .ok answer => .ok answer
  | .error fault => .error (.executionFailed name (p.pathOf name) fault.message)

/-- The answer of a module, and its behavior from then on. -/
def behave (p : Prepared) (name : String) (args : List String) :
    Behavior → Except Failure (Option Record) × Behavior
  | .prints bytes => (p.answerOf name bytes, .prints bytes)
  | .printsNext [] => (.ok none, .printsNext [])
  | .printsNext (bytes :: later) => (p.answerOf name bytes, .printsNext later)
  | .fails reason => (.error (.executionFailed name (p.pathOf name) reason), .fails reason)
  | .faults fault => (.error (.io fault), .faults fault)
  | .joinsArgs => (.ok (some (.success (.string (Text.join " " args)))), .joinsArgs)
  | .listsArgs => (.ok (some (.success (.list (args.map .string)))), .listsArgs)
  | .printsArgs => (p.answerOf name (Utf8.encode (Text.join " " args)), .printsArgs)
  | .nothing => (.ok none, .nothing)

/-- Calls a module. -/
def invoke (p : Prepared) (t : FileTree) (name : String) (args : List String) :
    Invocation Prepared :=
  match Dictionary.find? name p.modules with
  | none => ⟨p, t, [], .error (.moduleNotFound name)⟩
  | some behavior =>
    let (answer, next) := p.behave name args behavior
    ⟨{ p with modules := Dictionary.insert name next p.modules }, t, [], answer⟩

/-- Prepared modules have nothing to do with files. -/
theorem invoke_files (p : Prepared) (t : FileTree) (name : String) (args : List String) :
    (p.invoke t name args).files = t := by
  rw [invoke]
  split <;> rfl

/-- Prepared modules as a runner. -/
def runner : Runner Prepared where
  find? p _ name := p.find? name
  invoke := invoke
  available p _ := Dictionary.keys p.modules
  searchPaths := paths
  fileName := fileName

end Prepared

end JsonShell
