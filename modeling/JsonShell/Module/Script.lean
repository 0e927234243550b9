import JsonShell.Interpreter.Run
import JsonShell.Module.Loader
import JsonShell.Module.Output
import JsonShell.Module.Runner
import JsonShell.Text.ByteLine

/-!
# Modules that are scripts

The runner of a real session.  A module is a file found by a loader; it is run by an interpreter
with the arguments of the call, and answers with what it prints.  What it writes to its error
channel is passed on line by line.  The module's environment says where modules are looked for, and
its input is what is left of the input of the session.

The interpreter stands in for a program outside of the shell.  It is reached from here only, and
what is proved of sessions is proved for every runner.
-/

set_option autoImplicit false

namespace JsonShell

/-- Modules found by a loader and run by an interpreter in an environment, and the input that they
have not read. -/
structure ScriptModules where
  loader : Loader
  interpreter : String
  environment : Dictionary String
  input : Bytes

/-- The status of a process as others see it. -/
def ExitStatus.ofEnding : Interpreter.Ending → ExitStatus
  | .status n => .code n
  | .signal n => .signal n (signalTitle n)
where
  /-- The full name of a signal. -/
  signalTitle (n : Nat) : Option String :=
    if n = 16 then some "SIGSTKFLT"
    else if n = 0 then none
    else (Interpreter.Signal.name? n).map fun name => "SIG" ++ name

namespace ScriptModules

/-- The most bytes of an argument. -/
def maxArgument : Nat := 131071

/-- Why there is no program of a name, if there is none. -/
def missing (t : FileTree) (name : String) : FileFault :=
  if name.toList.contains '/' then
    match Interpreter.findStandard t ⟨name⟩ with
    | .ok _ => .other "Permission denied (os error 13)"
    | .error fault => fault
  else if FileTree.maxNameLength < name.utf8ByteSize then .nameTooLong
  else .notFound

/-- The program that a call starts, or why it cannot be started: a text in it cannot be passed on,
or there is no such interpreter, or what is there cannot be run. -/
def program (m : ScriptModules) (t : FileTree) (args : List String) :
    Except FileFault Interpreter.Shell.Program :=
  if (m.interpreter :: args).any fun s => s.toList.contains (Char.ofNat 0) then
    .error (.other "nul byte found in provided data")
  else
    match Interpreter.program? m.interpreter with
    | none => .error (missing t m.interpreter)
    | some program =>
      if args.any fun s => maxArgument < s.utf8ByteSize then
        .error (.other "Argument list too long (os error 7)")
      else .ok program

/-- The environment of a module: the search directories are in it, unless a colon in one of them
makes that impossible. -/
def moduleEnvironment (m : ScriptModules) : Dictionary String :=
  let paths := m.loader.paths.map Path.text
  if paths.any fun p => p.toList.contains ':' then m.environment
  else Dictionary.insert "PYTHONPATH" (Text.join ":" paths) m.environment

/-- The answer of a module that has ended. -/
def answerOf (finished : Interpreter.Finished) : Except ModuleFault (Option Record) :=
  match ExitStatus.ofEnding finished.ending with
  | .code 0 => Record.ofOutput finished.out
  | status => .error (.exited status)

/-- Runs the module of a name at a path. -/
def runAt (m : ScriptModules) (t : FileTree) (name : String) (path : Path) (args : List String) :
    Invocation ScriptModules :=
  let failure (fault : ModuleFault) : Failure := .executionFailed name path fault.message
  match m.program t args with
  | .error fault => ⟨m, t, [], .error (failure (.cannotStart m.interpreter fault))⟩
  | .ok program =>
    let finished := Interpreter.run ⟨t, m.moduleEnvironment, m.input⟩ program
      (m.interpreter :: path.text :: args)
    { runner := { m with input := finished.input }
      files := finished.files
      chatter := (Bytes.textLines finished.err).1
      answer := (answerOf finished).mapError failure }

/-- Calls a module. -/
def invoke (m : ScriptModules) (t : FileTree) (name : String) (args : List String) :
    Invocation ScriptModules :=
  match m.loader.find? t name with
  | none => ⟨m, t, [], .error (.moduleNotFound name)⟩
  | some path => m.runAt t name path args

/-- Modules that are scripts, as a runner. -/
def runner : Runner ScriptModules where
  find? m t name := m.loader.find? t name
  invoke := invoke
  available m t := m.loader.list t
  searchPaths m := m.loader.paths
  fileName m name := m.loader.fileName name

end ScriptModules

end JsonShell
