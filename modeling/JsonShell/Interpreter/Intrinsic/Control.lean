import JsonShell.Interpreter.Intrinsic.Basic

/-!
# Commands on the course of a script

`break`, `continue`, `return` and `exit` leave loops, functions and the shell; `eval` and `.` run
further texts; `trap`, `kill` and `wait` deal with signals and jobs.
-/

set_option autoImplicit false

namespace JsonShell.Interpreter.Intrinsic

open Shell

/-! ## Leaving -/

/-- How many loops `break` and `continue` are about. -/
def loopCount (args : List Octets) : Shell Nat := do
  match args with
  | [] => return min 1 (← process).loopDepth
  | arg :: _ =>
    let n ← naturalOf arg
    if n = 0 then failWith ("Illegal number: ".toList ++ arg)
    return min n (← process).loopDepth

/-- `break`. -/
def leave (args : List Octets) : Shell Nat := do
  let n ← loopCount args
  if n = 0 then return 0 else throw (.leaveLoops n)

/-- `continue`. -/
def goOn (args : List Octets) : Shell Nat := do
  let n ← loopCount args
  if n = 0 then return 0 else throw (.nextRound n)

/-- `return`. -/
def returnFrom (args : List Octets) : Shell Nat := do
  match args with
  | [] => throw (.returned (← process).status)
  | arg :: _ => throw (.returned (← naturalOf arg))

/-- `exit`. -/
def exit (args : List Octets) : Shell Nat := do
  match args with
  | [] =>
    let p ← process
    throw (.exited (p.endStatus.getD p.status))
  | arg :: _ => throw (.exited (← naturalOf arg))

/-! ## Further texts -/

/-- `eval`. -/
def evaluate (engine : Engine) (args : List Octets) : Shell Nat := do
  let text := [' '].intercalate args
  let before := (← process).status
  setStatus 0
  if text.all fun c => Octets.isSpace c then return 0
  setStatus before
  runText engine text
  return (← process).status

/-- The file that a name leads to: a path as it is, or a file in one of the directories for
programs. -/
def scriptPath? (name : Octets) : Shell (Option Octets) := do
  if name.contains '/' then return some name
  else
    let directories := Text.splitOn ':' ((← valueOf? "PATH").getD [])
    let t ← files
    return (directories.map fun d => if d.isEmpty then name else d ++ '/' :: name).find? fun path =>
      t.isFile (pathOf path)

/-- `.`: runs a file in this shell. -/
def runFile (engine : Engine) (args : List Octets) : Shell Nat := do
  match args with
  | [] => return 0
  | name :: _ =>
    match ← scriptPath? name with
    | none => failWith (name ++ ": not found".toList)
    | some path =>
      match (← files).read (pathOf path) with
      | .error fault =>
        failWith ("cannot open ".toList ++ path ++ ": ".toList ++ (openFault false fault).toList)
      | .ok content =>
        let depth := (← process).loopDepth
        modifyProcess fun p => { p with commandName := some path, loopDepth := 0, status := 0 }
        let outcome ← catching (runText engine (Octets.ofBytes content))
        modifyProcess fun p => { p with loopDepth := depth }
        match outcome with
        | .ok () => return (← process).status
        | .error (.returned status) => return status
        | .error jump => throw jump

/-! ## Signals -/

/-- A signal that an argument stands for. -/
def signalOf? (arg : Octets) : Option Nat :=
  Signal.read? (Octets.key arg)

/-- The name of a signal, or its number. -/
def signalText (n : Nat) : Octets :=
  match Signal.name? n with
  | some name => name.toList
  | none => Octets.natural n

/-- Sets what is done at signals. -/
def setTraps (action : Option Octets) : List Octets → Shell Nat
  | [] => return 0
  | arg :: rest => do
    match signalOf? arg with
    | none =>
      write 2 ("trap: ".toList ++ arg ++ ": bad trap\n".toList)
      return 1
    | some n =>
      modifyProcess fun p =>
        let others := p.traps.filter fun t => t.1 ≠ n
        { p with
          traps := match action with
            | some a => (n, a) :: others
            | none => others }
      setTraps action rest

/-- `trap`. -/
def trap (args : List Octets) : Shell Nat := do
  let o ← options "" args
  match o.rest with
  | [] =>
    for n in List.range (Signal.last + 1) do
      match ← trapFor? n with
      | some action => print ("trap -- ".toList ++ quote action ++ ' ' :: signalText n)
      | none => pure ()
    return 0
  | [only] => setTraps none [only]
  | first :: rest =>
    if (signalOf? first).isSome then setTraps none (first :: rest)
    else setTraps (if first = ['-'] then none else some first) rest

/-- How `kill` is to be used. -/
def killUsage : Octets :=
  ("Usage: kill [-s sigspec | -signum | -sigspec] [pid | job]... or\n" ++
    "kill -l [exitstatus]").toList

/-- Lists the names of signals, or says the name of one. -/
def listSignals (args : List Octets) : Shell Nat := do
  match args with
  | [] =>
    print ['0']
    for n in List.range Signal.last do
      let n := n + 1
      let text : Octets :=
        if n ≤ signalNames.length then signalText n
        else if n < 34 then Octets.natural n
        else if n = 34 then "RTMIN".toList
        else if n < 50 then "RTMIN+".toList ++ Octets.natural (n - 34)
        else if n < 64 then "RTMAX-".toList ++ Octets.natural (64 - n)
        else "RTMAX".toList
      print text
    return 0
  | arg :: _ =>
    let n ← naturalOf arg
    let n := if 128 < n then n - 128 else n
    if 0 < n && n ≤ Signal.last then
      print (signalText n)
      return 0
    else failWith ("invalid signal number or exit status: ".toList ++ arg)

/-- Sends a signal to a process; the answer tells whether there is one. -/
def send (number signal : Nat) : Shell Bool := do
  let p ← process
  if number = p.number || p.ancestors.contains number then
    modifyWorld fun w => { w with signals := w.signals ++ [(number, signal)] }
    return true
  else
    match (← world).jobs.find? fun j => j.number = number with
    | none => return false
    | some job =>
      let ignores := (job.process.traps.lookup signal).isSome && !Signal.isInevitable signal
      if signal ≠ 0 && !ignores && !Signal.isHarmless signal && !Signal.isStopping signal then
        let parent := job.process.ancestors.headD 0
        modifyWorld fun w =>
          { w with
            jobs := w.jobs.filter fun j => j.number ≠ number
            ended := ⟨number, parent, .signal signal⟩ :: w.ended }
      return true

/-- Sends a signal to the processes that arguments name. -/
def sendAll (signal : Nat) : List Octets → Shell Nat
  | [] => return 0
  | arg :: rest => do
    let found ← match arg with
      | '%' :: _ => failWith ("No such job: ".toList ++ arg)
      | '-' :: number => do
        let _ ← naturalOf number
        pure false
      | number => send (← naturalOf number) signal
    if !found then complain "No such process\n".toList
    let status ← sendAll signal rest
    return if found then status else 1

/-- `kill`. -/
def kill (args : List Octets) : Shell Nat := do
  let direct : Option Nat := match args with
    | ('-' :: text) :: _ => if text.isEmpty then none else signalOf? text
    | _ => none
  match direct with
  | some signal => if args.length < 2 then failWith killUsage else sendAll signal (args.drop 1)
  | none =>
    let o ← options "ls:" args
    if o.has 'l' then listSignals o.rest
    else
      let signal ← match o.value? 's' with
        | none => pure Signal.termination
        | some text =>
          match signalOf? text with
          | some n => pure n
          | none => failWith ("invalid signal number or name: ".toList ++ text)
      if o.rest.isEmpty then failWith killUsage else sendAll signal o.rest

/-! ## Jobs -/

/-- `wait`. -/
def wait (engine : Engine) (args : List Octets) : Shell Nat := do
  runJobs engine
  let own := (← process).number
  match args with
  | [] =>
    modifyWorld fun w => { w with ended := w.ended.filter fun j => j.parent ≠ own }
    return 0
  | args =>
    let statuses ← args.mapM fun arg => do
      let n ← naturalOf arg
      match (← world).ended.find? fun j => j.number = n && j.parent = own with
      | none => return 127
      | some job =>
        announce job.ending
        return job.ending.code
    return statuses.getLastD 0

end JsonShell.Interpreter.Intrinsic
