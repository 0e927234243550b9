import JsonShell.Session.Command
import JsonShell.Session.Pipeline
import JsonShell.Session.Script

/-!
# Running lines

Loops and scripts run further lines.  What runs those is a parameter here, so that everything but
`execute` itself is plain recursion over values, commands and lines; `execute` ties the knot, and
its depth bounds how far lines may run each other.

* A loop binds its variable to one value after the other and runs its body for each.  Variables in a
  command of the body are expanded first, unless the command is itself a loop, which does that for
  its own body.  The variable is unbound afterwards, however the loop ended.
* A script runs its commands until one fails.  That is logged, reported, and passed on inside a
  failure of the script.  If the script or one of its lines cannot be announced, nothing has been
  started yet, so that failure is passed on as it is.
-/

set_option autoImplicit false

namespace JsonShell

/-- A line of a script failed. -/
def Diagnostic.scriptFailed (path : Path) (line : Nat) (command message : String) : Diagnostic :=
  { titled .error "SCRIPT_ERROR" "error running script" with
    location := .file path (some line)
    context := some command
    message := some message
    hint := some "check the command and module output for errors" }

namespace Action

variable {ρ : Type}

/-! ## Assignments, built-in commands and calls -/

/-- The line that shows a binding. -/
def bindingText (a : Assignment) : String :=
  a.name ++ "=" ++ a.value ++ "\n"

/-- Shows a binding and then makes it. -/
def assign (a : Assignment) : Action ρ Unit := do
  print (bindingText a)
  setVariable a.name a.value
  emit (.assigned a.name a.value)

/-- What built-in commands see of a session. -/
def viewOf (settings : Settings ρ) (s : Session ρ) : View :=
  { store := s.store
    history := s.history
    find? := settings.runner.find? s.modules s.files
    available := settings.runner.available s.modules s.files
    searchPaths := settings.runner.searchPaths s.modules }

/-- Runs a built-in command.  If its text cannot be written, it is the command that fails. -/
def runBuiltin (settings : Settings ρ) (b : Builtin) (args : List String) : Action ρ Unit := do
  let s ← session
  match b.run (viewOf settings s) (args.map s.store.expand) with
  | .ok text => write (fun fault => .builtin fault.message) text
  | .error reason => raise (.builtin reason)

/-- Calls a module and shows the record that it gives. -/
def runCall (settings : Settings ρ) (name : String) (args : List String) : Action ρ Unit := do
  let s ← session
  match ← call settings (s.store.expand name) (args.map s.store.expand) with
  | some r => showRecord settings r
  | none => pure ()

/-! ## Loops -/

/-- A command of a body with its variables expanded, unless it is a loop. -/
def expandBody (store : Store) (command : String) : String :=
  if (Loop.parse? command).isSome then command else store.expand command

/-- Runs the commands of a body. -/
def runBody (run : String → Action ρ Unit) : List String → Action ρ Unit
  | [] => pure ()
  | command :: rest => do
    let s ← session
    run (expandBody s.store command)
    runBody run rest

/-- Runs a body once for each value. -/
def iterate (run : String → Action ρ Unit) (var : String) (body : List String) :
    List String → Action ρ Unit
  | [] => pure ()
  | value :: rest => do
    setVariable var value
    runBody run body
    iterate run var body rest

/-- Runs a loop. -/
def runLoop (run : String → Action ρ Unit) (l : Loop) : Action ρ Unit := do
  let s ← session
  match { l with source := s.store.expand l.source }.values with
  | .error fault => raise (.invalidRange fault.message)
  | .ok values =>
    emit (.looped l.var)
    let outcome ← attempt (iterate run l.var l.body values)
    removeVariable l.var
    ofExcept outcome

/-! ## Scripts -/

/-- Shows a text if the session is verbose. -/
def announce (settings : Settings ρ) (text : String) : Action ρ Unit :=
  if settings.verbose then print text else pure ()

/-- Runs one command of a script, which has been announced. -/
def performLine (settings : Settings ρ) (run : String → Action ρ Unit) (path : Path)
    (line : Nat) (command : String) : Action ρ Unit := do
  remember command
  setPlace (some (path, line))
  emit (.lineStarted path line command)
  let outcome ← attempt (run command)
  emit .lineEnded
  match outcome with
  | .ok () => pure ()
  | .error failure =>
    log settings (.script path line command failure.message)
    report (.scriptFailed path line command failure.message)
    fail (.script path line command failure)

/-- Announces one command of a script and runs it. -/
def runScriptLine (settings : Settings ρ) (run : String → Action ρ Unit) (path : Path)
    (line : Nat) (command : String) : Action ρ Unit := do
  announce settings (" " ++ toString line ++ " $ " ++ command ++ "\n")
  performLine settings run path line command

/-- Runs commands of a script until one fails. -/
def runScriptLines (settings : Settings ρ) (run : String → Action ρ Unit) (path : Path) :
    List (Nat × String) → Action ρ Unit
  | [] => pure ()
  | (line, command) :: rest => do
    runScriptLine settings run path line command
    runScriptLines settings run path rest

/-- Runs the commands of a text, and goes back to the place before it. -/
def performScript (settings : Settings ρ) (run : String → Action ρ Unit) (path : Path)
    (text : String) : Action ρ Unit := do
  let s ← session
  setPlace none
  let outcome ← attempt (runScriptLines settings run path (Script.commands text))
  setPlace s.place
  ofExcept outcome

/-- Announces the script at a path and runs it. -/
def runScript (settings : Settings ρ) (run : String → Action ρ Unit) (path : Path) :
    Action ρ Unit := do
  let s ← session
  match s.files.readText path with
  | .error fault => raise (.io fault)
  | .ok text =>
    emit (.opened path text)
    announce settings ("Running script: " ++ path.text ++ "\n")
    performScript settings run path text

/-! ## All commands -/

/-- Runs a command; `run` is for the lines that it runs in turn. -/
def runCommand (settings : Settings ρ) (run : String → Action ρ Unit) : Command → Action ρ Unit
  | .nothing => pure ()
  | .script path => runScript settings run path
  | .assignment a => assign a
  | .loop l => runLoop run l
  | .pipeline line => runPipeline settings line
  | .builtin b args => runBuiltin settings b args
  | .call name args => runCall settings name args

/-- Runs a line, whose commands may run lines up to a depth. -/
def execute (settings : Settings ρ) : Nat → String → Action ρ Unit
  | 0, _ => exhausted
  | depth + 1, line => do
    let s ← session
    runCommand settings (execute settings depth) (Command.ofLine s.files line)

end Action

namespace Session

variable {ρ : Type}

/-- A session with modules, files and a history, without variables and with an output that works. -/
def new (modules : ρ) (files : FileTree) (history : History) : Session ρ :=
  ⟨modules, Store.empty, history, files, Output.working, none⟩

/-- How deeply lines may run each other. -/
def depthLimit : Nat := 1000

/-- Runs a line. -/
def execute (settings : Settings ρ) (s : Session ρ) (line : String) : Option (Run ρ Unit) :=
  Action.execute settings depthLimit line s

/-- Runs the script at a path. -/
def executeFile (settings : Settings ρ) (s : Session ρ) (path : Path) : Option (Run ρ Unit) :=
  Action.runScript settings (Action.execute settings depthLimit) path s

end Session

end JsonShell
