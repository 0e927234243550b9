import JsonShell.File.Tree
import JsonShell.Interpreter.Command
import JsonShell.Interpreter.Signal

/-!
# Shells at work

A *process* is a shell at work: its arguments, variables and options, and what its descriptors stand
for.  The *world* is what processes share: the files, the streams that are open, and the jobs that
wait in the background.  A subshell starts as a copy of its shell and is forgotten when it ends,
while the world goes on.

What a process does is a `Shell` action: it changes process and world, and may end in a `Jump` that
leaves loops, functions or the process.

Like all of the interpreter, this only stands in for programs outside of the shell, which the shell
knows as a `Runner`.
-/

set_option autoImplicit false

namespace JsonShell.Interpreter

/-! ## The world -/

/-- Something that can be read or written. -/
inductive Stream where
  /-- Nothing is read from it, and what is written is lost. -/
  | nowhere
  /-- A text of which so much is left. -/
  | reading (rest : Octets)
  /-- What has been written, in reverse, to a pipe or to a channel of the program. -/
  | writing (isPipe : Bool) (written : Octets)
  /-- An open file, with the number of the byte that is next. -/
  | file (place : Place) (offset : Nat) (reads writes appends : Bool)

/-- The value of a name and what holds for it. -/
structure Binding where
  value : Option Octets
  /-- Programs that are started are told of it. -/
  exported : Bool
  /-- It is not to be changed. -/
  fixed : Bool
deriving DecidableEq, Repr

/-- A shell at work. -/
structure Process where
  number : Nat
  /-- The number of the process that started as a shell of its own, and not as a subshell. -/
  shell : Nat
  /-- The numbers of the processes that wait for this one, the nearest first. -/
  ancestors : List Nat
  /-- The name under which the shell was started, or the path of its script. -/
  name : Octets
  args : List Octets
  bindings : Dictionary Binding
  functions : Dictionary Command
  aliases : Dictionary Octets
  /-- The letters of the options that are on. -/
  options : List Char
  /-- The streams that descriptors stand for. -/
  descriptors : List (Nat × Nat)
  directory : Place
  /-- What is done at a signal; number 0 is the end of the process. -/
  traps : List (Nat × Octets)
  status : Nat
  /-- The status of the last command whose output was put into a word. -/
  outputStatus : Nat
  lastJob : Option Nat
  line : Nat
  /-- The built-in command that is running, as messages name it. -/
  commandName : Option Octets
  loopDepth : Nat
  functionDepth : Nat
  /-- Bindings that come back at the end of the functions that are running. -/
  saved : List (List (String × Option Binding))
  /-- The place inside of an argument up to which options have been read. -/
  optionOffset : Nat
  /-- The status with which the process ends when a trap for its end has run. -/
  endStatus : Option Nat

/-- A command that waits in the background. -/
structure Job where
  number : Nat
  process : Process
  command : Command

/-- How a process ended. -/
inductive Ending where
  | status (n : Nat)
  | signal (n : Nat)
deriving DecidableEq, Repr

/-- The end of a process with a status, of which others see one byte. -/
def Ending.ofStatus (n : Nat) : Ending :=
  .status (n % 256)

/-- The status that a shell gives to the way in which a child ended. -/
def Ending.code : Ending → Nat
  | .status n => n
  | .signal n => 128 + n

/-- A job that has ended and that its process has not asked about. -/
structure EndedJob where
  number : Nat
  parent : Nat
  ending : Ending
deriving DecidableEq, Repr

/-- What processes share. -/
structure World where
  files : FileTree
  streams : Array Stream
  jobs : List Job
  ended : List EndedJob
  /-- Signals that have been sent and not yet arrived. -/
  signals : List (Nat × Nat)
  lastNumber : Nat
  /-- The files that may be run as programs. -/
  programs : List Place

/-- A process in its world. -/
structure Machine where
  world : World
  process : Process

/-- What ends the course of a command before its time. -/
inductive Jump where
  /-- Leaves so many loops. -/
  | leaveLoops (n : Nat)
  /-- Leaves all but one of so many loops, and goes on with the next round of that one. -/
  | nextRound (n : Nat)
  /-- Leaves a function or a script that was read in. -/
  | returned (status : Nat)
  /-- Ends the process. -/
  | exited (status : Nat)
  /-- An error that ends the process, unless a command is told to catch it. -/
  | failed (status : Nat)
  /-- A signal ends the process. -/
  | killed (signal : Nat)
deriving DecidableEq, Repr

/-- What a process does. -/
abbrev Shell := EStateM Jump Machine

namespace Shell

/-! ## The process -/

/-- The process. -/
def process : Shell Process := do
  return (← get).process

/-- Changes the process. -/
def modifyProcess (f : Process → Process) : Shell Unit :=
  modify fun m => { m with process := f m.process }

/-- The world. -/
def world : Shell World := do
  return (← get).world

/-- Changes the world. -/
def modifyWorld (f : World → World) : Shell Unit :=
  modify fun m => { m with world := f m.world }

/-- Sets the status of the last command. -/
def setStatus (status : Nat) : Shell Unit :=
  modifyProcess fun p => { p with status := status }

/-- An option is on. -/
def hasOption (letter : Char) : Shell Bool := do
  return (← process).options.contains letter

/-- What an action comes to, or the jump it ends in. -/
def catching {α : Type} (action : Shell α) : Shell (Except Jump α) := fun m =>
  match action m with
  | .ok a m => .ok (.ok a) m
  | .error jump m => .ok (.error jump) m

/-- Runs an action and then another one, however the first one ends. -/
def finally' {α : Type} (action : Shell α) (after : Shell Unit) : Shell α := do
  let outcome ← catching action
  after
  match outcome with
  | .ok a => return a
  | .error jump => throw jump

/-- Repeats a step until it has an answer.  Too many steps end the process. -/
def repeatUntil {α : Type} (step : Shell (Option α)) : Nat → Shell α
  | 0 => throw (.killed Signal.overtime)
  | fuel + 1 => do
    match ← step with
    | some a => return a
    | none => repeatUntil step fuel

/-- More rounds than any loop of a sound script goes through. -/
def roundLimit : Nat := 1000000

/-- What can be read of the device that has zeros without end: more than is ever asked for. -/
def zeros : Octets :=
  List.replicate 1100000 '\x00'

/-! ## Files -/

/-- The files as the process sees them. -/
def files : Shell FileTree := do
  let m ← get
  return { m.world.files with current := m.process.directory }

/-- Puts changed files in place of the old ones. -/
def setFiles (t : FileTree) : Shell Unit :=
  modifyWorld fun w => { w with files := t }

/-- The path that octets write. -/
def pathOf (text : Octets) : Path :=
  ⟨Octets.toText text⟩

/-- A change of the files that may fail. -/
def changeFiles (f : FileTree → Except FileFault FileTree) : Shell (Option FileFault) := do
  match f (← files) with
  | .ok t =>
    setFiles t
    return none
  | .error fault => return some fault

/-! ## Streams -/

/-- The number of the stream that a descriptor stands for. -/
def streamOf? (descriptor : Nat) : Shell (Option Nat) := do
  return (← process).descriptors.lookup descriptor

/-- Opens a stream. -/
def newStream (s : Stream) : Shell Nat := do
  let w ← world
  modifyWorld fun w => { w with streams := w.streams.push s }
  return w.streams.size

/-- Makes a descriptor stand for a stream, or for nothing. -/
def setDescriptor (descriptor : Nat) (stream : Option Nat) : Shell Unit :=
  modifyProcess fun p =>
    let others := p.descriptors.filter fun d => d.1 ≠ descriptor
    { p with
      descriptors := match stream with
        | some s => (descriptor, s) :: others
        | none => others }

/-- How much a pipe holds before its writer is told that nobody reads on. -/
def pipeLimit : Nat := 300000

/-- A text with a part of it replaced, from some place on; a gap before it is filled. -/
def overwrite (content : Bytes) (offset : Nat) (text : Bytes) : Bytes :=
  content.take offset ++ List.replicate (offset - content.length) 0 ++ text ++
    content.drop (offset + text.length)

/-- The content of a file. -/
def contentOf (w : World) (place : Place) : Bytes :=
  match w.files.lookup place with
  | some (.file content) => content
  | _ => []

/-- Writes a text; the answer tells whether the descriptor can be written to. -/
def write? (descriptor : Nat) (text : Octets) : Shell Bool := do
  match ← streamOf? descriptor with
  | none => return false
  | some n =>
    let w ← world
    match w.streams[n]? with
    | none => return false
    | some .nowhere => return true
    | some (.reading _) => return false
    | some (.writing isPipe written) =>
      let written := text.reverse ++ written
      modifyWorld fun w => { w with streams := w.streams.set! n (.writing isPipe written) }
      if isPipe && pipeLimit < written.length then throw (.killed Signal.pipe)
      return true
    | some (.file place offset reads writes appends) =>
      if !writes then return false
      else
        let old := contentOf w place
        let offset := if appends then old.length else offset
        let content := overwrite old offset (Octets.toBytes text)
        let isThere := (w.files.lookup place).isSome
        modifyWorld fun w =>
          { w with
            files := if isThere then w.files.put place (.file content) else w.files
            streams := w.streams.set! n
              (.file place (offset + text.length) reads writes appends) }
        return true

/-- Writes a text, if that is possible. -/
def write (descriptor : Nat) (text : Octets) : Shell Unit := do
  let _ ← write? descriptor text

/-- What is left to be read from a descriptor, and what becomes of the stream when so much of it has
been read.  There is nothing to be read from a descriptor that stands for nothing. -/
def unread? (descriptor : Nat) : Shell (Option (Octets × (Nat → Shell Unit))) := do
  match ← streamOf? descriptor with
  | none => return none
  | some n =>
    let w ← world
    let put (s : Stream) : Shell Unit :=
      modifyWorld fun w => { w with streams := w.streams.set! n s }
    match w.streams[n]? with
    | none | some (.writing _ _) => return none
    | some .nowhere => return some ([], fun _ => pure ())
    | some (.reading rest) => return some (rest, fun count => put (.reading (rest.drop count)))
    | some (.file place offset reads writes appends) =>
      if !reads then return none
      else
        let rest := Octets.ofBytes ((contentOf w place).drop offset)
        return some (rest, fun count => put (.file place (offset + count) reads writes appends))

/-- Reads all that is left. -/
def readAll? (descriptor : Nat) : Shell (Option Octets) := do
  match ← unread? descriptor with
  | none => return none
  | some (rest, consume) =>
    consume rest.length
    return some rest

/-- Reads a line with its line break; the last one may have none. -/
def readLine? (descriptor : Nat) : Shell (Option Octets) := do
  match ← unread? descriptor with
  | none => return none
  | some (rest, consume) =>
    let line := rest.takeWhile (· != '\n')
    let line := if line.length < rest.length then line ++ ['\n'] else line
    consume line.length
    return some line

/-! ## Messages -/

/-- Says what is wrong, after the name of the script, the line and the command. -/
def complain (text : Octets) : Shell Unit := do
  let p ← process
  let command := match p.commandName with
    | some name => name ++ ": ".toList
    | none => []
  write 2
    (p.name ++ ": ".toList ++ Octets.natural p.line ++ ": ".toList ++ command ++ text ++ ['\n'])

/-- Says what is wrong and ends the process. -/
def failWith {α : Type} (text : Octets) : Shell α := do
  complain text
  throw (.failed 2)

/-! ## Variables -/

/-- The binding of a name. -/
def binding? (name : String) : Shell (Option Binding) := do
  return Dictionary.find? name (← process).bindings

/-- The value of a name. -/
def valueOf? (name : String) : Shell (Option Octets) := do
  return (← binding? name).bind (·.value)

/-- Puts a binding in place of the old one, or removes it. -/
def setBinding (name : String) (b : Option Binding) : Shell Unit :=
  modifyProcess fun p =>
    { p with
      bindings := match b with
        | some b => Dictionary.insert name b p.bindings
        | none => Dictionary.erase name p.bindings
      optionOffset := if name = "OPTIND" then 0 else p.optionOffset }

/-- Gives a name a value.  A name that is not to be changed ends the process. -/
def assign (name : String) (value : Octets) : Shell Unit := do
  match ← binding? name with
  | some b =>
    if b.fixed then failWith (name.toList ++ ": is read only".toList)
    else setBinding name (some { b with value := some value })
  | none => setBinding name (some ⟨some value, ← hasOption 'a', false⟩)

/-- The environment of the programs that the process starts. -/
def environment : Shell (Dictionary Octets) := do
  return (← process).bindings.filterMap fun (name, b) =>
    if b.exported then b.value.map fun value => (name, value) else none

end Shell

end JsonShell.Interpreter
