import JsonShell.Interpreter.Reader.Command
import JsonShell.Interpreter.Redirection

/-!
# Texts, traps and subshells

A shell runs the text of a script line by line, and texts that it makes itself in the same way.  It
looks for signals between commands and runs the traps that are set for them.  When it ends, the trap
for the end is run, and then the jobs that still wait for it.

A subshell is a copy of its shell.  A job in the background is a subshell that is put off until the
shell waits for something or ends.
-/

set_option autoImplicit false

namespace JsonShell.Interpreter

namespace Shell

/-! ## Texts -/

/-- Runs the lines of a text that are left. -/
def runLines (engine : Engine) : Nat → Source → Shell Unit
  | 0, _ => return ()
  | fuel + 1, s => do
    if s.rest.isEmpty then return ()
    else
      match (readLine.run { s with aliases := (← process).aliases, ahead := none }) with
      | .error fault =>
        modifyProcess fun p => { p with line := fault.line }
        failWith ("Syntax error: ".toList ++ fault.message.toList)
      | .ok (command, s) =>
        match command with
        | .sequence [] => runLines engine fuel s
        | command =>
          if !(← hasOption 'n') then engine.run false command
          runLines engine fuel s

/-- Runs a text. -/
def runText (engine : Engine) (text : Octets) : Shell Unit :=
  runLines engine (text.length + 1) (Source.ofText text 1 [])

/-! ## Signals -/

/-- What a process does at a signal; nothing if it has not said so. -/
def trapFor? (signal : Nat) : Shell (Option Octets) := do
  return (← process).traps.lookup signal

/-- Runs the command of a trap, which leaves the status as it was. -/
def runTrap (engine : Engine) (action : Octets) : Shell Unit := do
  let status := (← process).status
  runText engine action
  setStatus status

/-- Takes in a signal. -/
def receive (engine : Engine) (signal : Nat) : Shell Unit := do
  let isDeadly := signal ≠ 0 && !Signal.isHarmless signal && !Signal.isStopping signal
  match ← trapFor? signal with
  | some action =>
    if Signal.isInevitable signal then
      if isDeadly then throw (.killed signal)
    else if !action.isEmpty then runTrap engine action
  | none => if isDeadly then throw (.killed signal)

/-- Takes in the signals that have been sent. -/
def receiveAll (engine : Engine) : Shell Unit := do
  let number := (← process).number
  let (mine, others) := (← world).signals.partition fun s => s.1 = number
  if !mine.isEmpty then
    modifyWorld fun w => { w with signals := others }
    mine.forM fun s => receive engine s.2

/-- Dies of a signal that has been sent and that no trap is set for. -/
def dieOfSignals : Shell Unit := do
  let p ← process
  let deadly := (← world).signals.find? fun s =>
    s.1 = p.number && s.2 ≠ 0 && !Signal.isHarmless s.2 && !Signal.isStopping s.2 &&
      (Signal.isInevitable s.2 || (p.traps.lookup s.2).isNone)
  match deadly with
  | some s => throw (.killed s.2)
  | none => return ()

/-! ## Ends -/

/-- How a process ends that comes to a jump. -/
def endingOf (p : Process) : Except Jump Unit → Ending
  | .ok () => .ofStatus p.status
  | .error (.exited n) | .error (.failed n) | .error (.returned n) => .ofStatus n
  | .error (.leaveLoops _) | .error (.nextRound _) => .status 0
  | .error (.killed signal) => .signal signal

/-- Runs the trap for the end of a process. -/
def runEndTrap (engine : Engine) (status : Nat) : Shell Ending := do
  match ← trapFor? 0 with
  | none | some [] => return .status status
  | some action =>
    modifyProcess fun p => { p with
      status := status
      traps := p.traps.filter fun t => t.1 ≠ 0
      endStatus := some status }
    match ← catching (runText engine action) with
    | .ok () => return .ofStatus status
    | .error (.exited n) | .error (.failed n) => return .ofStatus n
    | .error (.killed signal) => return .signal signal
    | .error _ => return .ofStatus status

/-- Runs an action as the course of a process, to the very end. -/
def toTheEnd (engine : Engine) (body : Shell Unit) : Shell Ending := do
  let outcome ← catching do
    body
    receiveAll engine
  match endingOf (← process) outcome with
  | .status n => runEndTrap engine n
  | .signal signal => return .signal signal

/-! ## Children -/

/-- A number for a new process. -/
def newNumber : Shell Nat := do
  modifyWorld fun w => { w with lastNumber := w.lastNumber + 1 }
  return (← world).lastNumber

/-- Runs an action in a copy of the process, which is forgotten. -/
def apart {α : Type} (action : Shell α) : Shell α := do
  let parent ← process
  finally' action (modifyProcess fun _ => parent)

/-- The process as a subshell starts with it: only signals that are ignored stay so. -/
def asSubshell (number : Nat) (p : Process) : Process :=
  { p with
    number := number
    ancestors := p.number :: p.ancestors
    traps := p.traps.filter fun t => t.2.isEmpty && t.1 ≠ 0
    endStatus := none }

/-- Signals from the keyboard, which do nothing to commands in the background. -/
def keyboardSignals : List Nat := [2, 3]

/-- The process of a command in the background when it starts to run. -/
def inBackground (p : Process) : Process :=
  { p with
    traps := keyboardSignals.map (·, []) ++ p.traps.filter fun t => !keyboardSignals.contains t.1 }

/-- Runs the jobs of a process that have been put off. -/
def runJobsOf (engine : Engine) (number : Nat) : Nat → Shell Unit
  | 0 => return ()
  | fuel + 1 => do
    match (← world).jobs.find? fun j => j.process.ancestors.head? = some number with
    | none => return ()
    | some job =>
      modifyWorld fun w => { w with jobs := w.jobs.filter fun j => j.number ≠ job.number }
      let ending ← apart do
        modifyProcess fun _ => inBackground job.process
        let ending ← toTheEnd engine (engine.run false job.command)
        runJobsOf engine job.number fuel
        return ending
      modifyWorld fun w => { w with ended := ⟨job.number, number, ending⟩ :: w.ended }
      runJobsOf engine number fuel

/-- More jobs than any script has. -/
def jobLimit : Nat := 1000

/-- Runs the jobs that the process has put off. -/
def runJobs (engine : Engine) : Shell Unit := do
  runJobsOf engine (← process).number jobLimit

/-- Runs an action in a subshell. -/
def inSubshell (engine : Engine) (body : Shell Unit) : Shell Ending := do
  let number ← newNumber
  let ending ← apart do
    modifyProcess (asSubshell number)
    let ending ← toTheEnd engine body
    runJobsOf engine number jobLimit
    return ending
  dieOfSignals
  return ending

/-- Says that a signal has ended a child, unless that happens in the ordinary course of things. -/
def announce (ending : Ending) : Shell Unit := do
  match ending with
  | .signal n => if n ≠ 2 && n ≠ Signal.pipe then write 2 ((signalText n).toList ++ ['\n'])
  | .status _ => return ()
where
  /-- What is told about a signal. -/
  signalText : Nat → String
    | 1 => "Hangup"
    | 3 => "Quit"
    | 4 => "Illegal instruction"
    | 5 => "Trace/breakpoint trap"
    | 6 => "Aborted"
    | 7 => "Bus error"
    | 8 => "Floating point exception"
    | 9 => "Killed"
    | 10 => "User defined signal 1"
    | 11 => "Segmentation fault"
    | 12 => "User defined signal 2"
    | 14 => "Alarm clock"
    | 15 => "Terminated"
    | 16 => "Stack fault"
    | 24 => "CPU time limit exceeded"
    | 25 => "File size limit exceeded"
    | 26 => "Virtual timer expired"
    | 27 => "Profiling timer expired"
    | 29 => "I/O possible"
    | 30 => "Power failure"
    | 31 => "Bad system call"
    | n => "Signal " ++ toString n

/-- Runs an action with its output put into a text. -/
def capturing (isPipe : Bool) (body : Shell Unit) : Shell Octets := do
  let n ← newStream (.writing isPipe [])
  let old := (← process).descriptors
  setDescriptor 1 (some n)
  finally' body (setDescriptor 1 (old.lookup 1))
  match (← world).streams[n]? with
  | some (.writing _ written) =>
    modifyWorld fun w => { w with streams := w.streams.set! n .nowhere }
    return written.reverse
  | _ => return []

/-- What a command prints in a subshell; its status is kept. -/
def outputOf (engine : Engine) (command : Command) : Shell Octets := do
  capturing false do
    let ending ← inSubshell engine (engine.run false command)
    modifyProcess fun p => { p with outputStatus := ending.code }

/-- Puts a command off into the background, where it has nothing to read. -/
def putOff (command : Command) : Shell Unit := do
  let number ← newNumber
  let nothing ← newStream .nowhere
  let p := asSubshell number (← process)
  let p := { p with descriptors := (0, nothing) :: p.descriptors.filter fun d => d.1 ≠ 0 }
  modifyWorld fun w => { w with jobs := w.jobs ++ [⟨number, p, command⟩] }
  modifyProcess fun p => { p with lastJob := some number, status := 0 }

end Shell

end JsonShell.Interpreter
