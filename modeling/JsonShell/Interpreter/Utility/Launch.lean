import JsonShell.Interpreter.Child
import JsonShell.Interpreter.Intrinsic.Condition
import JsonShell.Interpreter.Real
import JsonShell.Interpreter.Utility.Basic

/-!
# Starting programs

Utilities that start other programs: with a changed environment, with arguments that they read, or
after a while.  The programs that `find` starts are in the module of that utility.
-/

set_option autoImplicit false

namespace JsonShell.Interpreter.Utility

open Shell

/-- The status of a program that a utility has started, which says why there is none. -/
def startNamed (engine : Engine) (name : String) (inQuotes : Bool) (args : List Octets) :
    Shell Ending := do
  match ← engine.start args with
  | .ok ending => return ending
  | .error e =>
    let program := args.headD []
    let reason := if e.status = 127 then "No such file or directory" else e.message
    say name ((if inQuotes then quoted program else program) ++ ": ".toList ++ reason.toList)
    return .status e.status

/-- Ends as a program did. -/
def endAs (ending : Ending) : Shell Nat :=
  match ending with
  | .status n => pure n
  | .signal n => throw (.killed n)

/-! ## Environments -/

/-- The name and the value of an argument that is an assignment. -/
def assignment? (arg : Octets) : Option (String × Octets) :=
  let name := arg.takeWhile (· != '=')
  match arg.drop name.length with
  | _ :: value => if name.isEmpty then none else some (String.ofList name, value)
  | [] => none

/-- Makes the assignments at the front of arguments, and gives the arguments after them. -/
def assignAll : List Octets → Shell (List Octets)
  | [] => return []
  | arg :: rest =>
    match assignment? arg with
    | some (name, value) => do
      setBinding name (some ⟨some value, true, false⟩)
      assignAll rest
    | none => return arg :: rest

/-- Prints the environment. -/
def printEnvironment (ending : Octets) : Shell Unit := do
  for (name, value) in ← environment do
    write 1 (name.toList ++ '=' :: value ++ ending)

/-- `env`. -/
def env : Utility := fun engine args =>
  let g : Grammar := ⟨"i0u:C:S:", [("ignore-environment", 'i'), ("unset", 'u'), ("null", '0'),
    ("chdir", 'C')]⟩
  withCall "env" g 125 true args fun c => do
    let (clears, operands) := if c.operands.head? == some ['-'] then (true, c.operands.drop 1)
      else (c.has 'i', c.operands)
    if clears then
      modifyProcess fun p =>
        { p with bindings := p.bindings.map fun (name, b) => (name, { b with exported := false }) }
    for name in c.values 'u' do
      setBinding (Octets.key name) none
    match ← assignAll operands with
    | [] =>
      printEnvironment (if c.has '0' then ['\x00'] else ['\n'])
      return 0
    | program => endAs (← startNamed engine "env" true program)

/-- `printenv`. -/
def printenv : Utility := fun _ args =>
  withCall "printenv" ⟨"0", [("null", '0')]⟩ 2 true args fun c => do
    let ending := if c.has '0' then ['\x00'] else ['\n']
    if c.operands.isEmpty then
      printEnvironment ending
      return 0
    else
      let known ← environment
      let found := c.operands.map fun name => Dictionary.find? (Octets.key name) known
      write 1 (found.flatMap fun value => match value with
        | some v => v ++ ending
        | none => [])
      return statusOf (found.all Option.isSome)

/-! ## Time -/

/-- A text is a span of time, with a letter for its unit. -/
def isInterval (text : Octets) : Bool :=
  let body := match text.getLast? with
    | some c => if "smhd".toList.contains c then text.dropLast else text
    | none => text
  body = "infinity".toList || (match Real.read? body with
    | some r => r.rest.isEmpty && !(match r.value with
      | .notNumber _ => true
      | v => v.isNegative)
    | none => false)

/-- `sleep`, during which all that waits in the background is done. -/
def sleep : Utility := fun engine args =>
  withCall "sleep" ⟨"", []⟩ 1 true args fun c => do
    match c.operands, c.operands.find? fun t => !isInterval t with
    | [], _ => misuse "sleep" "missing operand".toList 1
    | _, some text => misuse "sleep" ("invalid time interval ".toList ++ quoted text) 1
    | _, none =>
      for number in (← process).ancestors do
        runJobsOf engine number jobLimit
      return 0

/-- `timeout`, for programs that are always fast enough. -/
def timeout : Utility := fun engine args =>
  withCall "timeout" ⟨"k:s:vfp", [("kill-after", 'k'), ("signal", 's'), ("foreground", 'f'),
    ("preserve-status", 'p')]⟩ 125 true args fun c => do
    match c.operands with
    | interval :: program :: rest =>
      if isInterval interval then endAs (← startNamed engine "timeout" true (program :: rest))
      else misuse "timeout" ("invalid time interval ".toList ++ quoted interval) 125
    | _ => misuse "timeout" "missing operand".toList 125

/-- `nohup`, `nice` and others that start a program as it is. -/
def justStart (name : String) (letters : String) : Utility := fun engine args =>
  withCall name ⟨letters, []⟩ 125 true args fun c => do
    if c.operands.isEmpty then misuse name "missing operand".toList 125
    else endAs (← startNamed engine name true c.operands)

/-! ## Arguments that are read -/

/-- What reading arguments has come to: those that are complete, in reverse, and the one that is
being read, in reverse. -/
structure Reading where
  done : List Octets
  current : Option Octets

/-- Puts a byte at the end of the argument that is being read. -/
def Reading.put (r : Reading) (c : Char) : Reading :=
  { r with current := some (c :: r.current.getD []) }

/-- Ends the argument that is being read. -/
def Reading.finish (r : Reading) : Reading :=
  match r.current with
  | some word => ⟨word.reverse :: r.done, none⟩
  | none => r

/-- Reads arguments between blanks; quotes and backslashes keep them.  There is none if a quote has
no partner. -/
def readArguments? (quote : Option Char) (r : Reading) : Octets → Option (List Octets)
  | [] => if quote.isSome then none else some r.finish.done.reverse
  | c :: rest =>
    match quote with
    | some q =>
      if c == q then readArguments? none r rest
      else if c == '\n' then none
      else readArguments? quote (r.put c) rest
    | none =>
      if c == '\'' || c == '"' then
        readArguments? (some c) { r with current := some (r.current.getD []) } rest
      else if c == '\\' then
        match rest with
        | d :: rest => readArguments? none (r.put d) rest
        | [] => some r.finish.done.reverse
      else if Octets.isSpace c then readArguments? none r.finish rest
      else readArguments? none (r.put c) rest

/-- A text with another one in place of each occurrence of a mark. -/
def replaceMark (mark value : Octets) : Nat → Octets → Octets
  | 0, text => text
  | fuel + 1, text =>
    match text with
    | [] => []
    | c :: rest =>
      if !mark.isEmpty && mark.isPrefixOf (c :: rest) then
        value ++ replaceMark mark value fuel ((c :: rest).drop mark.length)
      else c :: replaceMark mark value fuel rest

/-- A list in pieces of some length. -/
def chunks {α : Type} (size : Nat) : Nat → List α → List (List α)
  | 0, _ => []
  | fuel + 1, xs =>
    if xs.isEmpty then [] else xs.take size :: chunks size fuel (xs.drop size)

/-- The status of `xargs` after a program. -/
def xargsStatus (ending : Ending) : Nat :=
  match ending with
  | .signal _ => 125
  | .status 0 => 0
  | .status 255 => 124
  | .status n => if n = 126 || n = 127 then n else 123

/-- Starts programs until one ends in a way that ends it all. -/
def startAll (engine : Engine) (traces : Bool) : List (List Octets) → Nat → Shell Nat
  | [], status => return status
  | program :: rest, status => do
    if traces then write 2 ([' '].intercalate program ++ ['\n'])
    let next := xargsStatus (← startNamed engine "xargs" false program)
    if next ≤ 123 then startAll engine traces rest (max status next) else return next

/-- The options of `xargs`. -/
def xargsGrammar : Grammar :=
  ⟨"0a:d:E:e:I:i:L:l:n:P:prs:tx",
    [("null", '0'), ("delimiter", 'd'), ("max-args", 'n'), ("max-procs", 'P'),
      ("no-run-if-empty", 'r'), ("replace", 'I'), ("max-lines", 'L'), ("verbose", 't'),
      ("arg-file", 'a')]⟩

/-- The delimiter that an option writes. -/
def delimiterOf (text : Octets) : Char :=
  match text with
  | ['\\', 'n'] => '\n'
  | ['\\', 't'] => '\t'
  | ['\\', '0'] => '\x00'
  | c :: _ => c
  | [] => '\n'

/-- The pieces of a text between delimiters; nothing follows the last one. -/
def delimitedPieces (d : Char) (text : Octets) : List Octets :=
  let pieces := Text.splitOn d text
  if pieces.getLast? = some [] then pieces.dropLast else pieces

/-- The programs that `xargs` starts for an input. -/
def xargsPrograms? (c : Call) (text : Octets) : Option (List (List Octets)) :=
  let program := if c.operands.isEmpty then ["echo".toList] else c.operands
  let number (letter : Char) : Option Nat := (c.value? letter).bind natural?
  let delimiter := if c.has '0' then some '\x00' else (c.value? 'd').map delimiterOf
  match c.value? 'I' with
  | some mark =>
    let lines : List Octets := match delimiter with
      | some d => delimitedPieces d text
      | none => (Octets.lines text).map fun l => l.dropWhile Octets.isBlank
    some ((lines.filter fun l => !l.isEmpty).map fun line =>
      program.map fun word => replaceMark mark line (word.length + 1) word)
  | none =>
    let read (text : Octets) : Option (List Octets) := match delimiter with
      | some d => some (delimitedPieces d text)
      | none => readArguments? none ⟨[], none⟩ text
    match number 'L' with
    | some n =>
      let groups := chunks (max n 1) (text.length + 1)
        ((Octets.lines text).filter fun l => !l.all Octets.isBlank)
      groups.mapM fun g => (read (Octets.unlines g)).map fun args => program ++ args
    | none =>
      (read text).map fun args =>
        match number 'n' with
        | some n =>
          if args.isEmpty then [program]
          else (chunks (max n 1) (args.length + 1) args).map fun g => program ++ g
        | none => [program ++ args]

/-- `xargs`. -/
def xargs : Utility := fun engine args =>
  withCall "xargs" xargsGrammar 1 true args fun c => do
    let text ← match c.value? 'a' with
      | some path => do pure ((← textAt? "xargs" path).getD [])
      | none => do pure ((← readAll? 0).getD [])
    match xargsPrograms? c text with
    | none =>
      say "xargs" ("unmatched " ++ (if text.contains '"' then "double" else "single") ++
        " quote; by default quotes are special to xargs unless you use the -0 option").toList
      return 1
    | some programs =>
      let isEmpty := text.all Octets.isSpace
      if isEmpty && c.has 'r' then return 0
      else
        let nothing ← newStream .nowhere
        setDescriptor 0 (some nothing)
        startAll engine (c.has 't') programs 0

end JsonShell.Interpreter.Utility
