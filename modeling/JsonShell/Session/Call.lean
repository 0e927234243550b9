import JsonShell.Session.Action

/-!
# Calling modules

A call that fails is reported before the failure is passed on.  That no module has the name is
reported at the place of the line that is being run, and a module that gave no answer at its file,
which is named from its search directory; the latter is also logged.  Other failures of a call are
not reported.
-/

set_option autoImplicit false

namespace JsonShell

/-- The place of a script line, or of a line that was typed. -/
def Location.ofPlace : Option (Path × Nat) → Location
  | some (path, line) => .file path (some line)
  | none => .interactive

namespace Diagnostic

/-- No module has this name. -/
def moduleNotFound (location : Location) (command name fileName : String) (paths : List Path) :
    Diagnostic :=
  { titled .error "err_module_not_found" "module not found" with
    location := location
    context := some command
    underline := some (0, name.length)
    message := some ("cannot find module '" ++ name ++ "'")
    hint := some ("expected to find " ++ fileName ++ " in the modules directory")
    notes :=
      ["current search path: " ++ Text.join ":" (paths.map Path.text),
        "run `modules` to see available modules"] }

/-- A path seen from the first search directory that it is in. -/
def pathInSearch (paths : List Path) (path : Path) : Path :=
  (paths.findSome? path.stripPrefix?).getD path

/-- A module gave no answer. -/
def executionFailed (paths : List Path) (name : String) (path : Path) (reason : String) :
    Diagnostic :=
  { titled .error "err_execution_failed" "module execution failed" with
    location := .file (pathInSearch paths path) none
    message := some (name ++ ": " ++ reason)
    hint := some "module must print valid JSON to stdout and nothing else"
    notes :=
      ["no stray prints, debug output, tracebacks, or syntax errors allowed",
        "full path: " ++ path.text] }

end Diagnostic

/-- A call as it would be typed. -/
def callText (name : String) (args : List String) : String :=
  Text.join " " (name :: args)

namespace Action

variable {ρ : Type}

/-- Calls a module without reporting a failure. -/
def invoke (settings : Settings ρ) (name : String) (args : List String) :
    Action ρ (Option Record) :=
  fun s =>
    let i := settings.runner.invoke s.modules s.files name args
    some
      { session := { s with modules := i.runner, files := i.files }
        trace := i.chatter.map .chatter ++ [.called name args i.answer]
        result := i.answer }

/-- Reports the failure of a call. -/
def reportCall (settings : Settings ρ) (command : String) : Failure → Action ρ Unit
  | .moduleNotFound name => do
    let s ← session
    report (.moduleNotFound (.ofPlace s.place) command name
      (settings.runner.fileName s.modules name) (settings.runner.searchPaths s.modules))
  | .executionFailed name path reason => do
    log settings (.execution command path reason)
    let s ← session
    report (.executionFailed (settings.runner.searchPaths s.modules) name path reason)
  | _ => pure ()

/-- Calls a module. -/
def call (settings : Settings ρ) (name : String) (args : List String) :
    Action ρ (Option Record) := do
  match ← attempt (invoke settings name args) with
  | .ok answer => pure answer
  | .error failure =>
    reportCall settings (callText name args) failure
    fail failure

end Action

end JsonShell
