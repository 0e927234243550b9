import JsonShell.Interpreter.Intrinsic.Control
import JsonShell.Interpreter.Intrinsic.Files
import JsonShell.Interpreter.Intrinsic.Variables

/-!
# All intrinsic commands

The table of the commands that a shell carries out itself, and those commands that are about names
of commands.
-/

set_option autoImplicit false

namespace JsonShell.Interpreter.Intrinsic

open Shell

/-! ## Aliases -/

/-- Shows an alias. -/
def showAlias (name : String) (value : Octets) : Shell Unit :=
  print (name.toList ++ '=' :: quote value)

/-- `alias`. -/
def defineAliases (args : List Octets) : Shell Nat := do
  if args.isEmpty then
    for (name, value) in (← process).aliases do
      showAlias name value
    return 0
  else
    let statuses ← args.mapM fun arg => do
      let (name, value) := declaration arg
      let key := Octets.key name
      match value with
      | some v =>
        modifyProcess fun p => { p with aliases := Dictionary.insert key v p.aliases }
        return 0
      | none =>
        match Dictionary.find? key (← process).aliases with
        | some v =>
          showAlias key v
          return 0
        | none =>
          write 2 ("alias: ".toList ++ name ++ " not found\n".toList)
          return 1
    return statuses.foldl max 0

/-- `unalias`. -/
def removeAliases (args : List Octets) : Shell Nat := do
  let o ← options "a" args
  if o.has 'a' then
    modifyProcess fun p => { p with aliases := [] }
    return 0
  else
    let statuses ← o.rest.mapM fun name => do
      let key := Octets.key name
      let known := (Dictionary.find? key (← process).aliases).isSome
      modifyProcess fun p => { p with aliases := Dictionary.erase key p.aliases }
      if known then return 0
      else
        write 2 ("unalias: ".toList ++ name ++ " not found\n".toList)
        return 1
    return statuses.foldl max 0

/-! ## Limits and times -/

/-- `umask`. -/
def mask (args : List Octets) : Shell Nat := do
  let o ← options "S" args
  if o.rest.isEmpty then print (if o.has 'S' then "u=rwx,g=rx,o=rx" else "0022").toList
  return 0

/-- `ulimit`. -/
def limit (args : List Octets) : Shell Nat := do
  let o ← options "HSatfdscmlpnvwr" args
  if o.rest.isEmpty && !o.has 'a' then print "unlimited".toList
  return 0

/-- `times`. -/
def times : Shell Nat := do
  print "0m0.000000s 0m0.000000s".toList
  print "0m0.000000s 0m0.000000s".toList
  return 0

/-! ## The table -/

/-- The command that a shell carries out itself under a name. -/
def find? (name : Octets) : Option Intrinsic :=
  match Octets.key name with
  | ":" => some (special fun _ _ => pure 0)
  | "." => some (special runFile)
  | "break" => some (special fun _ => leave)
  | "continue" => some (special fun _ => goOn)
  | "eval" => some (special evaluate)
  | "exit" => some (special fun _ => exit)
  | "export" =>
    some (declaring fun _ =>
      declareAll "export" Binding.exported fun b => { b with exported := true })
  | "local" => some (declaring fun _ => declareLocal)
  | "readonly" =>
    some (declaring fun _ => declareAll "readonly" Binding.fixed fun b => { b with fixed := true })
  | "return" => some (special fun _ => returnFrom)
  | "set" => some (special fun _ => setArguments)
  | "shift" => some (special fun _ => shift)
  | "times" => some (special fun _ _ => times)
  | "trap" => some (special fun _ => trap)
  | "unset" => some (special fun _ => remove)
  | "true" => some (regular fun _ _ => pure 0)
  | "false" => some (regular fun _ _ => pure 1)
  | "echo" => some (regular fun _ => echo)
  | "printf" => some (regular fun _ => printf)
  | "test" => some (regular fun _ => test)
  | "[" => some (regular fun _ => bracket)
  | "cd" | "chdir" => some (regular fun _ => changeDirectory)
  | "pwd" => some (regular fun _ => showDirectory)
  | "read" => some (regular fun _ => readLine)
  | "getopts" => some (regular fun _ => getOption)
  | "kill" => some (regular fun _ => kill)
  | "wait" => some (regular wait)
  | "alias" => some (regular fun _ => defineAliases)
  | "unalias" => some (regular fun _ => removeAliases)
  | "umask" => some (regular fun _ => mask)
  | "ulimit" => some (regular fun _ => limit)
  | "jobs" => some (regular fun _ _ => pure 0)
  | "fg" | "bg" => some (regular fun _ _ => failWith "job control not enabled".toList)
  | _ => none

end JsonShell.Interpreter.Intrinsic
