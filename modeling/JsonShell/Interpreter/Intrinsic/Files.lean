import JsonShell.Interpreter.Intrinsic.Basic
import JsonShell.Interpreter.Intrinsic.Condition
import JsonShell.Interpreter.Print

/-!
# Commands on directories and texts

`cd` and `pwd` are about the directory of the shell, `test` asks about texts and files, and `echo`
and `printf` print.
-/

set_option autoImplicit false

namespace JsonShell.Interpreter

namespace Shell

/-- The text of a place. -/
def placeText (place : Place) : Octets :=
  if place.isEmpty then ['/']
  else place.flatMap fun name => '/' :: Octets.ofString (String.ofList name)

/-- Paths that are there though no file is. -/
def devices : List String :=
  ["/dev/null", "/dev/zero", "/dev/tty", "/dev/stdin", "/dev/stdout", "/dev/stderr"]

/-- The answer to a question about the file at a path. -/
def probeOne (t : FileTree) (programs : List Place) (op : String) (path : Octets) : Bool :=
  if devices.contains (Octets.key path) then ["-e", "-r", "-w", "-c", "-O", "-G"].contains op
  else match t.find (pathOf path) with
  | .error _ => false
  | .ok (_, .directory) => ["-e", "-d", "-r", "-w", "-x", "-s", "-O", "-G"].contains op
  | .ok (place, .file content) =>
    match op with
    | "-s" => !content.isEmpty
    | "-x" => programs.contains place
    | op => ["-e", "-f", "-r", "-w", "-O", "-G"].contains op

/-- The answer to a question about the files at two paths. -/
def probeTwo (t : FileTree) (op : String) (a b : Octets) : Bool :=
  match op, t.find (pathOf a), t.find (pathOf b) with
  | "-ef", .ok (p, _), .ok (q, _) => p == q
  | _, _, _ => false

/-- The answers to questions about files. -/
def probe : Shell Condition.Probe := do
  let t ← files
  let programs := (← world).programs
  return ⟨probeOne t programs, probeTwo t⟩

end Shell

namespace Intrinsic

open Shell

/-! ## Directories -/

/-- Makes a place the directory of the shell. -/
def enter (place : Place) : Shell Unit := do
  let old := placeText (← process).directory
  modifyProcess fun p => { p with directory := place }
  setBinding "OLDPWD" (some ⟨some old, true, false⟩)
  setBinding "PWD" (some ⟨some (placeText place), true, false⟩)

/-- `cd`. -/
def changeDirectory (args : List Octets) : Shell Nat := do
  let o ← options "LP" args
  let (path, shows) ← match o.rest with
    | [] => do pure ((← valueOf? "HOME").getD [], false)
    | ['-'] :: _ => do pure ((← valueOf? "OLDPWD").getD ['.'], true)
    | path :: _ => pure (path, false)
  if path.isEmpty then return 0
  match (← files).find (pathOf path) with
  | .ok (place, .directory) =>
    enter place
    if shows then print (placeText place)
    return 0
  | _ => failWith ("can't cd to ".toList ++ path)

/-- `pwd`. -/
def showDirectory (args : List Octets) : Shell Nat := do
  let _ ← options "LP" args
  print (placeText (← process).directory)
  return 0

/-! ## Questions -/

/-- `test`. -/
def test (args : List Octets) : Shell Nat := do
  match Condition.holds (← probe) args with
  | .ok true => return 0
  | .ok false => return 1
  | .error message => failWith message

/-- `[`. -/
def bracket (args : List Octets) : Shell Nat := do
  if args.getLast? = some [']'] then test args.dropLast else failWith "missing ]".toList

/-! ## Printing -/

/-- Writes on the output, which may be closed. -/
def emit (text : Octets) (status : Nat) : Shell Nat := do
  if ← write? 1 text then return status
  else if text.isEmpty then return status
  else
    complain "I/O error".toList
    return 1

/-- `echo`. -/
def echo (args : List Octets) : Shell Nat :=
  emit (Interpreter.echo args) 0

/-- `printf`. -/
def printf (args : List Octets) : Shell Nat := do
  let o ← options "" args
  match o.rest with
  | [] => failWith "usage: printf format [arg ...]".toList
  | format :: args =>
    let printed := Interpreter.printf format args
    let status ← emit printed.text (if printed.complaints.isEmpty then 0 else 1)
    printed.complaints.forM fun (arg, fault) => complain (fault.message arg)
    match printed.failure with
    | some fault => failWith fault.message
    | none => return status

end Intrinsic

end JsonShell.Interpreter
