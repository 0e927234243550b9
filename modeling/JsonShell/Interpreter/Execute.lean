import JsonShell.Interpreter.Intrinsic.Table
import JsonShell.Interpreter.Utility.Table

/-!
# Running commands

A simple command is carried out by the shell itself, by a function or by a program; the others put
commands together.  Every command leaves a status.  A failure ends a shell that is *strict*, unless
it decides about something: what comes after `if`, `while` and `!`, and what stands before `&&` and
`||`, is *tested*.

Everything here is plain recursion over an `Engine` for what is nested.  `engine` ties the knot; its
depth bounds how far commands may be nested in one another, and going beyond it is the end of the
process, like a stack that is full.

Like all of the interpreter, this only stands in for programs outside of the shell, which the shell
knows as a `Runner`; nothing is proved of it.
-/

set_option autoImplicit false

namespace JsonShell.Interpreter

namespace Shell

/-! ## Programs -/

/-- A program: a utility, or a file that may be run. -/
inductive Program where
  | utility (name : String) (path : Octets)
  | file (path : Octets)

/-- The directories that hold the utilities. -/
def programDirectories : List Octets :=
  ["/usr/bin".toList, "/bin".toList]

/-- The names of the shell as a program. -/
def shellNames : List String := ["sh", "dash"]

/-- There is a utility of a name. -/
def isUtility (name : String) : Bool :=
  shellNames.contains name || (Utility.find? name).isSome

/-- The program at a path. -/
def programAt (path : Octets) : Shell (Except NoProgram Program) := do
  let fromEnd := path.reverse
  let name := (fromEnd.takeWhile (· != '/')).reverse
  let directory := (fromEnd.drop (name.length + 1)).reverse
  if programDirectories.contains directory && isUtility (Octets.key name) then
    return .ok (.utility (Octets.key name) path)
  else
    match (← files).find (pathOf path) with
    | .error .notFound | .error .notDirectory => return .error ⟨127, "not found"⟩
    | .error .nameTooLong => return .error ⟨127, "File name too long"⟩
    | .error _ => return .error ⟨126, "Permission denied"⟩
    | .ok (place, .file _) =>
      if (← world).programs.contains place then return .ok (.file path)
      else return .error ⟨126, "Permission denied"⟩
    | .ok (_, .directory) => return .error ⟨126, "Permission denied"⟩

/-- The first program of a name in directories. -/
def programIn (name : Octets) (denied : Bool) : List Octets → Shell (Except NoProgram Program)
  | [] => return .error ⟨127, if denied then "Permission denied" else "not found"⟩
  | d :: rest => do
    match ← programAt (if d.isEmpty then name else d ++ '/' :: name) with
    | .ok program => return .ok program
    | .error e => programIn name (denied || e.status = 126) rest

/-- The program of a name or a path. -/
def programOf (name : Octets) : Shell (Except NoProgram Program) := do
  if name.contains '/' then programAt name
  else programIn name false (Text.splitOn ':' ((← valueOf? "PATH").getD []))

/-- What the first line of a file says about how it is run: a program and perhaps an argument. -/
def interpreterOf (content : Octets) : List Octets :=
  match content with
  | '#' :: '!' :: rest =>
    let line := (rest.takeWhile (· != '\n')).dropWhile Octets.isBlank
    let program := line.takeWhile fun c => !Octets.isBlank c
    let argument := ((line.drop program.length).dropWhile Octets.isBlank).reverse
    let argument := (argument.dropWhile Octets.isBlank).reverse
    if program.isEmpty then ["/bin/sh".toList]
    else if argument.isEmpty then [program] else [program, argument]
  | _ => ["/bin/sh".toList]

/-! ## Names of commands -/

/-- What a name of a command stands for, in a sentence and in short. -/
def describe (name : Octets) : Shell (Option (Octets × Octets)) := do
  let p ← process
  let key := Octets.key name
  if Token.reservedWords.contains key then return some (" is a shell keyword".toList, name)
  else
    match Dictionary.find? key p.aliases with
    | some v =>
      return some (" is an alias for ".toList ++ v, "alias ".toList ++ name ++ '=' :: quote v)
    | none =>
      if (Dictionary.find? key p.functions).isSome then
        return some (" is a shell function".toList, name)
      else
        match Intrinsic.find? name with
        | some i =>
          let kind := if i.isSpecial then " is a special shell builtin" else " is a shell builtin"
          return some (kind.toList, name)
        | none =>
          if ["exec", "command", "type", "hash"].contains key then
            return some (" is a shell builtin".toList, name)
          else
            match ← programOf name with
            | .ok (.utility _ path) | .ok (.file path) =>
              return some (" is ".toList ++ path, path)
            | .error _ => return none

/-- `type`. -/
def tellTypes (args : List Octets) : Shell Nat := do
  let statuses ← args.mapM fun name => do
    match ← describe name with
    | some (sentence, _) =>
      print (name ++ sentence)
      return 0
    | none =>
      print (name ++ ": not found".toList)
      return 127
  return statuses.foldl max 0

/-- `command` with an option that asks what a name stands for; only the first one counts. -/
def tellCommand (verbose : Bool) : List Octets → Shell Nat
  | [] => return 0
  | name :: _ => do
    match ← describe name with
    | some (sentence, short) =>
      print (if verbose then name ++ sentence else short)
      return 0
    | none =>
      if verbose then print (name ++ ": not found".toList)
      return 127

/-- `hash`. -/
def rememberPrograms (args : List Octets) : Shell Nat := do
  let o ← options "r" args
  let statuses ← o.rest.mapM fun name => do
    match ← programOf name with
    | .ok _ => return 0
    | .error _ =>
      complain (name ++ ": not found".toList)
      return 1
  return statuses.foldl max 0

/-! ## Functions -/

/-- Gives variables the bindings back that they had. -/
def bringBack (saved : List (String × Option Binding)) : Shell Unit :=
  saved.forM fun (name, b) => setBinding name b

/-- How deeply functions may call each other. -/
def functionLimit : Nat := 1000

/-- Runs a function with arguments. -/
def callFunction (engine : Engine) (tested : Bool) (body : Command) (args : List Octets) :
    Shell Unit := do
  let p ← process
  if functionLimit ≤ p.functionDepth then
    failWith "Maximum function recursion depth (1000) reached".toList
  modifyProcess fun q =>
    { q with
      args := args
      optionOffset := 0
      loopDepth := 0
      functionDepth := q.functionDepth + 1
      saved := [] :: q.saved }
  let outcome ← catching (engine.run tested body)
  let frame := (← process).saved.headD []
  bringBack frame
  modifyProcess fun q =>
    { q with
      args := p.args
      optionOffset := p.optionOffset
      loopDepth := p.loopDepth
      functionDepth := p.functionDepth
      saved := q.saved.drop 1 }
  match outcome with
  | .ok () => return ()
  | .error (.returned status) => setStatus status
  | .error jump => throw jump

/-! ## Simple commands -/

/-- What carries out a simple command. -/
inductive Carrier where
  | nobody
  | intrinsic (i : Intrinsic)
  | function (body : Command)
  | program
  /-- The program takes the place of the shell. -/
  | replacing
  /-- The command is about names of commands. -/
  | naming (run : List Octets → Shell Nat)

/-- What carries out a command of a name; `plain` leaves functions aside. -/
def carrierOf (plain : Bool) (name : Octets) : Shell Carrier := do
  let key := Octets.key name
  let p ← process
  let functions := if plain then [] else p.functions
  match Dictionary.find? key functions with
  | some body => return .function body
  | none =>
    match Intrinsic.find? name with
    | some i => return .intrinsic i
    | none =>
      match key with
      | "exec" => return .replacing
      | "type" => return .naming tellTypes
      | "hash" => return .naming rememberPrograms
      | _ => return .program

/-- A command without the words in front of it that only say how to look for it: what carries it
out, its name and arguments, and whether its failures are taken as ordinary ones. -/
structure Simple where
  carrier : Carrier
  args : List Octets
  isOrdinary : Bool

/-- Takes `command` and its options off the front of arguments. -/
def afterCommand : List Octets → Option (List Octets)
  | ['-', '-'] :: rest => some rest
  | ['-', 'p'] :: rest => afterCommand rest
  | ('-' :: _ :: _) :: _ => none
  | args => some args

/-- What carries out a command and with which arguments. -/
def simpleOf (plain : Bool) : Nat → List Octets → Shell Simple
  | 0, args => return ⟨.nobody, args, plain⟩
  | fuel + 1, args => do
    match args with
    | [] => return ⟨.nobody, [], plain⟩
    | name :: rest =>
      let isShadowed := !plain && (Dictionary.find? "command" (← process).functions).isSome
      if name = "command".toList && !isShadowed then
        match afterCommand rest with
        | some rest => simpleOf true fuel rest
        | none =>
          let tell (args : List Octets) : Shell Nat := do
            let o ← options "pvV" args
            tellCommand (o.has 'V') o.rest
          return ⟨.naming tell, args, plain⟩
      else return ⟨← carrierOf plain name, args, plain⟩

/-- Makes the assignments in front of a command. -/
def makeAssignments (engine : Engine) (assignments : List (String × Word)) (exports : Bool) :
    Shell Unit :=
  assignments.forM fun (name, w) => do
    let value ← assignedText engine w
    assign name value
    if exports then
      let b := (← binding? name).getD ⟨some value, false, false⟩
      setBinding name (some { b with exported := true })

/-- Runs a command with assignments that are for it alone. -/
def withAssignments (engine : Engine) (assignments : List (String × Word)) (action : Shell Unit) :
    Shell Unit := do
  let p ← process
  let saved := assignments.map fun (name, _) => (name, Dictionary.find? name p.bindings)
  finally'
    (do
      makeAssignments engine assignments true
      action)
    (bringBack saved.reverse)

/-- Runs a command of the shell; its failure ends the shell or just the command. -/
def runIntrinsic (ends : Bool) (name : Octets) (run : Shell Nat) : Shell Unit := do
  let old := (← process).commandName
  modifyProcess fun p => { p with commandName := some name }
  let outcome ← catching run
  modifyProcess fun p => { p with commandName := old }
  match outcome with
  | .ok status => setStatus status
  | .error (.failed status) => if ends then throw (.failed status) else setStatus status
  | .error jump => throw jump

/-- Runs a program in a process of its own.  That there is none is told. -/
def startTold (engine : Engine) (args : List Octets) : Shell Ending := do
  match ← engine.start args with
  | .ok ending => return ending
  | .error e =>
    complain (args.headD [] ++ ": ".toList ++ e.message.toList)
    return .status e.status

/-- Runs a program and takes its status. -/
def runProgram (engine : Engine) (args : List Octets) : Shell Unit := do
  let ending ← startTold engine args
  dieOfSignals
  announce ending
  setStatus ending.code

/-- Runs a program in place of the shell. -/
def replaceBy (engine : Engine) (args : List Octets) : Shell Unit := do
  modifyProcess fun p => { p with commandName := some "exec".toList }
  match ← startTold engine args with
  | .signal n => throw (.killed n)
  | .status n =>
    if n ≠ 127 && n ≠ 126 then modifyProcess fun p => { p with traps := [] }
    throw (.exited n)

/-- Shows a command before it is run, if that is asked for. -/
def trace (assignments : List (String × Word)) (args : List Octets) : Shell Unit := do
  if ← hasOption 'x' then
    let values ← assignments.mapM fun (name, _) => do
      return name.toList ++ '=' :: (← valueOf? name).getD []
    write 2 (((← valueOf? "PS4").getD []) ++ [' '].intercalate (values ++ args) ++ ['\n'])

/-- Runs a simple command whose words have been expanded. -/
def runExpanded (engine : Engine) (tested : Bool) (assignments : List (String × Word))
    (redirections : List Redirection) (args : List Octets) : Shell Unit := do
  let c ← simpleOf false (args.length + 1) args
  let name := c.args.headD []
  match c.carrier with
  | .nobody =>
    withRedirections engine redirections
      (do
        makeAssignments engine assignments false
        trace assignments []
        setStatus (← process).outputStatus)
      (return ())
  | .replacing =>
    if c.args.length ≤ 1 then
      if ← redirectAll engine redirections then
        makeAssignments engine assignments false
        setStatus 0
      else if !c.isOrdinary then throw (.failed 2)
    else
      withRedirections engine redirections
        (do
          makeAssignments engine assignments true
          replaceBy engine (c.args.drop 1))
        (throw (.failed 2))
  | .intrinsic i =>
    let ends := i.isSpecial && !c.isOrdinary
    let run := runIntrinsic ends name (i.run engine (c.args.drop 1))
    withRedirections engine redirections
      (if ends then do
        makeAssignments engine assignments false
        trace assignments args
        run
      else withAssignments engine assignments do
        trace assignments args
        run)
      (if ends then throw (.failed 2) else return ())
  | .naming run =>
    withRedirections engine redirections
      (withAssignments engine assignments do
        runIntrinsic false name (run (c.args.drop 1)))
      (return ())
  | .function body =>
    withRedirections engine redirections
      (withAssignments engine assignments do
        trace assignments args
        callFunction engine tested body (c.args.drop 1))
      (return ())
  | .program =>
    withRedirections engine redirections
      (withAssignments engine assignments do
        trace assignments args
        runProgram engine c.args)
      (return ())

/-- The arguments that the words of a command stand for. -/
def expandCommand (engine : Engine) : List Word → Shell (List Octets)
  | [] => return []
  | w :: rest => do
    match ← argumentsOf engine w with
    | [] => expandCommand engine rest
    | args =>
      let names := args.dropWhile (· = "command".toList)
      let assigns := match names with
        | name :: _ => ((Intrinsic.find? name).map (·.assigns)).getD false
        | [] => false
      let more ← argumentsOfAll engine assigns rest
      return args ++ more

/-! ## Commands that put commands together -/

/-- Runs commands one after the other. -/
def runSequence (engine : Engine) (tested : Bool) : List Command → Shell Unit
  | [] => return ()
  | c :: rest => do
    engine.run tested c
    runSequence engine tested rest

/-- Runs a round of a loop; the answer tells whether the loop goes on. -/
def runRound (body : Shell Unit) : Shell Bool := do
  match ← catching body with
  | .ok () => return true
  | .error (.leaveLoops n) => if n ≤ 1 then return false else throw (.leaveLoops (n - 1))
  | .error (.nextRound n) => if n ≤ 1 then return true else throw (.nextRound (n - 1))
  | .error jump => throw jump

/-- Runs an action as a loop. -/
def looping (action : Shell Unit) : Shell Unit := do
  modifyProcess fun p => { p with loopDepth := p.loopDepth + 1 }
  finally' action (modifyProcess fun p => { p with loopDepth := p.loopDepth - 1 })

/-- Runs a loop with a test before each round. -/
def runLoop (engine : Engine) (tested whileFailing : Bool) (test body : Command) : Shell Unit := do
  modifyProcess fun p => { p with status := 0 }
  let round (last : Nat) : Shell (Option Nat) := do
    engine.run true test
    if ((← process).status = 0) == whileFailing then return none
    else
      setStatus last
      engine.run tested body
      return some (← process).status
  looping (rounds round roundLimit 0)
where
  /-- Rounds of the loop; `last` is the status of the last body. -/
  rounds (round : Nat → Shell (Option Nat)) : Nat → Nat → Shell Unit
    | 0, _ => throw (.killed Signal.overtime)
    | fuel + 1, last => do
      match ← catching (round last) with
      | .ok none => setStatus last
      | .ok (some status) => rounds round fuel status
      | .error (.leaveLoops n) =>
        if n ≤ 1 then setStatus 0 else throw (.leaveLoops (n - 1))
      | .error (.nextRound n) =>
        if n ≤ 1 then rounds round fuel 0 else throw (.nextRound (n - 1))
      | .error jump => throw jump

/-- Runs a body once for each value of a variable. -/
def runEach (engine : Engine) (tested : Bool) (name : String) (body : Command) :
    List Octets → Shell Unit
  | [] => return ()
  | value :: rest => do
    assign name value
    if ← runRound (engine.run tested body) then runEach engine tested name body rest

/-- One of the patterns matches. -/
def anyMatch (engine : Engine) (text : Octets) : List Word → Shell Bool
  | [] => return false
  | w :: rest => do
    if (← patternOf engine w).isMatch text then return true else anyMatch engine text rest

/-- Runs the command of the first arm that matches. -/
def runArms (engine : Engine) (tested : Bool) (text : Octets) :
    List (List Word × Command) → Shell Unit
  | [] => return ()
  | (patterns, body) :: rest => do
    if ← anyMatch engine text patterns then engine.run tested body
    else runArms engine tested text rest

/-- Runs the commands of a pipeline from left to right, each in a subshell that reads what the one
before it wrote. -/
def runPipes (engine : Engine) (tested : Bool) : List Command → Shell Ending
  | [] => return .status 0
  | [last] => inSubshell engine (engine.run tested last)
  | c :: rest => do
    let written ← capturing true do
      let _ ← inSubshell engine (engine.run tested c)
    let n ← newStream (.reading written)
    let old := (← process).descriptors
    setDescriptor 0 (some n)
    finally' (runPipes engine tested rest) (setDescriptor 0 (old.lookup 0))

/-- A failure that nothing depends on ends a strict shell. -/
def checkStrict (tested : Bool) : Shell Unit := do
  let status := (← process).status
  if status ≠ 0 && !tested then
    if ← hasOption 'e' then throw (.exited status)

/-- Takes note of the line of a command. -/
def atLine (line : Nat) : Shell Unit :=
  modifyProcess fun p => { p with line := line }

/-- Runs a command. -/
def runWith (engine : Engine) (tested : Bool) : Command → Shell Unit
  | .simple line assignments words redirections => do
    atLine line
    modifyProcess fun p => { p with outputStatus := 0 }
    let args ← expandCommand engine words
    runExpanded engine tested assignments redirections args
    receiveAll engine
    checkStrict tested
  | .redirected line c redirections => do
    atLine line
    withRedirections engine redirections (engine.run tested c) (return ())
  | .sequence cs => runSequence engine tested cs
  | .both a b => do
    engine.run true a
    if (← process).status = 0 then engine.run tested b
  | .either a b => do
    engine.run true a
    if (← process).status ≠ 0 then engine.run tested b
  | .negated c => do
    engine.run true c
    setStatus (if (← process).status = 0 then 1 else 0)
  | .pipeline cs => do
    let ending ← runPipes engine tested cs
    announce ending
    setStatus ending.code
    receiveAll engine
    checkStrict tested
  | .background c => putOff c
  | .subshell line c => do
    atLine line
    let ending ← inSubshell engine (engine.run tested c)
    announce ending
    setStatus ending.code
    receiveAll engine
    checkStrict tested
  | .conditional test success failure => do
    engine.run true test
    if (← process).status = 0 then engine.run tested success
    else
      setStatus 0
      engine.run tested failure
  | .loop whileFailing test body => runLoop engine tested whileFailing test body
  | .each line name words body => do
    atLine line
    let values ← match words with
      | some ws => argumentsOfAll engine false ws
      | none => do pure (← process).args
    setStatus 0
    looping (runEach engine tested name body values)
  | .choice line subject arms => do
    atLine line
    let text ← wholeText engine subject
    setStatus 0
    runArms engine tested text arms
  | .definition _ name body => do
    modifyProcess fun p => { p with functions := Dictionary.insert name body p.functions }
    setStatus 0

/-! ## Shells as programs -/

/-- The variables of a shell that starts, in an environment. -/
def initialBindings (environment : Dictionary Octets) (directory : Place) (parent : Nat) :
    Dictionary Binding :=
  let plain (text : String) : Binding := ⟨some text.toList, false, false⟩
  let own : Dictionary Binding := Dictionary.ofList
    [("IFS", ⟨some Field.usualSeparators, false, false⟩), ("OPTIND", plain "1"),
      ("PATH", plain "/usr/local/sbin:/usr/local/bin:/usr/sbin:/usr/bin:/sbin:/bin"),
      ("PPID", ⟨some (Octets.natural parent), false, false⟩), ("PS1", plain "$ "),
      ("PS2", plain "> "), ("PS4", plain "+ ")]
  let told := (environment.filter fun e => isName e.1.toList).foldl
    (fun d e => if e.1 = "IFS" || e.1 = "PPID" then d
      else Dictionary.insert e.1 ⟨some e.2, true, false⟩ d) own
  Dictionary.insert "PWD" ⟨some (placeText directory), true, false⟩ told

/-- A shell that starts in the place of a process. -/
def freshProcess (p : Process) (environment : Dictionary Octets) (name : Octets)
    (args : List Octets) : Process :=
  { p with
    shell := p.number
    name := name
    args := args
    bindings := initialBindings environment p.directory (p.ancestors.headD 0)
    functions := []
    aliases := []
    options := []
    status := 0
    outputStatus := 0
    lastJob := none
    line := 0
    commandName := none
    loopDepth := 0
    functionDepth := 0
    saved := []
    optionOffset := 0 }

/-- What a shell that is started as a program runs. -/
inductive Start where
  | text (text name : Octets) (args : List Octets)
  | file (path : Octets) (args : List Octets)
  | input (args : List Octets)

/-- What the arguments of a shell say that it runs, after its options. -/
def startOf (isText readsInput : Bool) (args : List Octets) : Option Start :=
  match isText, args with
  | true, [] => none
  | true, text :: name :: args => some (.text text name args)
  | true, [text] => some (.text text "sh".toList [])
  | false, [] => some (.input [])
  | false, path :: args => some (if readsInput then .input (path :: args) else .file path args)

/-- Takes the options of a shell off the front of its arguments: what is left, whether a text or the
input is to be run. -/
def startOptions : Nat → List Octets → Bool → Bool → Shell (List Octets × Bool × Bool)
  | 0, args, isText, readsInput => return (args, isText, readsInput)
  | fuel + 1, args, isText, readsInput => do
    match args with
    | ['-', '-'] :: rest | ['-'] :: rest => return (rest, isText, readsInput)
    | ['-', 'o'] :: name :: rest =>
      Intrinsic.turnNamed true name
      startOptions fuel rest isText readsInput
    | ['+', 'o'] :: name :: rest =>
      Intrinsic.turnNamed false name
      startOptions fuel rest isText readsInput
    | ('-' :: letters) :: rest =>
      Intrinsic.turnAll true (letters.filter fun c => c != 'c' && c != 's' && c != 'l')
      startOptions fuel rest (isText || letters.contains 'c') (readsInput || letters.contains 's')
    | ('+' :: letters) :: rest =>
      Intrinsic.turnAll false letters
      startOptions fuel rest isText readsInput
    | args => return (args, isText, readsInput)

/-- Runs a shell with arguments as the course of a process. -/
def runShell (engine : Engine) (name : Octets) (args : List Octets) : Shell Unit := do
  let environment ← environment
  modifyProcess fun p => freshProcess p environment name []
  let (rest, isText, readsInput) ← startOptions (args.length + 1) args false false
  match startOf isText readsInput rest with
  | none => failWith "-c requires an argument".toList
  | some (.text text name args) =>
    modifyProcess fun p => { p with name := if rest.length = 1 then p.name else name, args := args }
    runText engine text
  | some (.input args) =>
    modifyProcess fun p => { p with args := args }
    runText engine ((← readAll? 0).getD [])
  | some (.file path args) =>
    match (← files).read (pathOf path) with
    | .ok content =>
      modifyProcess fun p => { p with name := path, args := args }
      runText engine (Octets.ofBytes content)
    | .error fault =>
      let reason := openFault false fault
      let _ ← catching (failWith (α := Unit)
        ("cannot open ".toList ++ path ++ ": ".toList ++ reason.toList))
      throw (.exited 2)

/-- Runs a program as the course of a process; `start` is for a program that a file names. -/
def runProgramHere (engine : Engine) (program : Program) (args : List Octets) : Shell Unit := do
  match program with
  | .utility name _ =>
    if shellNames.contains name then runShell engine (args.headD []) (args.drop 1)
    else
      match Utility.find? name with
      | some utility => setStatus (← utility engine (args.drop 1))
      | none => setStatus 127
  | .file path =>
    let content := ((← files).read (pathOf path)).toOption.getD []
    match ← engine.start (interpreterOf (Octets.ofBytes content) ++ path :: args.drop 1) with
    | .ok (.status n) => setStatus n
    | .ok (.signal n) => throw (.killed n)
    | .error e =>
      complain (args.headD [] ++ ": ".toList ++ e.message.toList)
      setStatus e.status

/-- Runs a program with arguments in a process of its own. -/
def runApart (engine : Engine) (program : Program) (args : List Octets) : Shell Ending := do
  let number ← newNumber
  apart do
    modifyProcess fun p => { asSubshell number p with lastJob := none }
    let ending ← toTheEnd engine (runProgramHere engine program args)
    runJobsOf engine number jobLimit
    return ending

/-- Looks for a program and runs it with arguments. -/
def startProgram (engine : Engine) (args : List Octets) : Shell (Except NoProgram Ending) := do
  match ← programOf (args.headD []) with
  | .error e => return .error e
  | .ok program => return .ok (← runApart engine program args)

/-! ## The engine -/

/-- An engine for commands and words that are nested up to a depth. -/
def engine : Nat → Engine
  | 0 =>
    { run := fun _ _ => throw (.killed Signal.segmentation)
      expand := fun _ _ => throw (.killed Signal.segmentation)
      output := fun _ => throw (.killed Signal.segmentation)
      start := fun _ => throw (.killed Signal.segmentation) }
  | depth + 1 =>
    let deeper := engine depth
    { run := runWith deeper
      expand := expandParts deeper
      output := outputOf deeper
      start := startProgram deeper }

/-- How deeply commands and words may be nested. -/
def depthLimit : Nat := 20000

end Shell

end JsonShell.Interpreter
