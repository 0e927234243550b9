import JsonShell.Interpreter.Reader.Token

/-!
# Reading commands

Commands are read by going down the grammar: a *list* is made of *chains* of pipelines joined by
`&&` and `||`, a pipeline of commands, and a command is simple or made of lists again.  The reader
of commands inside of commands is a parameter, and `readCommand` ties the knot up to a depth.

A script is read line by line (`readLine`), so that what stands before a line that cannot be read is
run.  The text of a here-document stands after the line that asks for it; it is taken out of the
source as soon as it is asked for.
-/

set_option autoImplicit false

namespace JsonShell.Interpreter

/-- Commands in a row as one command. -/
def Command.ofList : List Command → Command
  | [c] => c
  | cs => .sequence cs

/-! ## Here-documents -/

/-- Cuts a text after its line break, which does not count inside of quotes. -/
def cutLine (quote : Option Char) (read : Octets) : Octets → Octets × Octets
  | [] => (read.reverse, [])
  | c :: rest =>
    match quote with
    | some q =>
      if c == q then cutLine none (c :: read) rest
      else
        match c, rest with
        | '\\', d :: rest =>
          if q == '"' then cutLine quote (d :: c :: read) rest
          else cutLine quote (c :: read) (d :: rest)
        | c, rest => cutLine quote (c :: read) rest
    | none =>
      match c, rest with
      | '\n', rest => ((c :: read).reverse, rest)
      | '\\', d :: rest => cutLine none (d :: c :: read) rest
      | c, rest =>
        if c == '\'' || c == '"' then cutLine (some c) (c :: read) rest
        else cutLine none (c :: read) rest

/-- A line that goes on in the next one. -/
def isJoined (line : Octets) : Bool :=
  (line.reverse.takeWhile (· == '\\')).length % 2 == 1

/-- A here-document: the lines up to the mark, how many lines it takes, and what follows. -/
structure Document where
  body : List Octets
  lineCount : Nat
  rest : List Octets

/-- The lines of a here-document. -/
def documentLines (mark : Octets) (stripsTabs joins : Bool) (joined : Bool) :
    List Octets → Document
  | [] => ⟨[], 0, []⟩
  | [[]] => ⟨[], 0, []⟩
  | line :: rest =>
    let line := if stripsTabs && !joined then line.dropWhile (· == '\t') else line
    if line == mark && !joined then ⟨[], 1, rest⟩
    else
      let d := documentLines mark stripsTabs joins (joins && isJoined line) rest
      { d with body := line :: d.body, lineCount := d.lineCount + 1 }

/-- The text of the mark of a here-document. -/
def markText : Word → Octets
  | [] => []
  | .plain c :: rest | .literal c :: rest => c :: markText rest
  | .quoted [] :: rest => markText rest
  | .quoted (.literal c :: more) :: rest => c :: markText (.quoted more :: rest)
  | _ :: rest => markText rest
termination_by w => sizeOf w

/-- The mark of a here-document has a quote in it, so that its text is taken as it is. -/
def isQuotedMark (w : Word) : Bool :=
  w.any fun part => match part with
    | .plain _ => false
    | _ => true

/-- Takes the text of a here-document out of the source. -/
def readDocument (commands : Scan Command) (mark : Word) (stripsTabs : Bool) : Scan Word := do
  let s ← get
  let (line, after) := cutLine none [] s.rest
  let keeps := isQuotedMark mark
  let d := documentLines (markText mark) stripsTabs (!keeps) false (Text.splitOn '\n' after)
  let rest := ['\n'].intercalate d.rest
  set { s with rest := line ++ rest, takenLines := s.takenLines + d.lineCount }
  let text := d.body.flatMap (· ++ ['\n'])
  if keeps then return text.map .literal
  else
    Scan.within text (s.line + 1) do
      parts commands (← Scan.fuel) .document []

/-! ## Redirections -/

/-- Reads what a redirection leads to. -/
def readRedirection (commands : Scan Command) (descriptor : Option Nat) (sign : String) :
    Scan Redirection := do
  match ← token commands with
  | .word w =>
    match sign with
    | "<" => return .file (descriptor.getD 0) .reading w
    | ">" => return .file (descriptor.getD 1) .writing w
    | ">|" => return .file (descriptor.getD 1) .overwriting w
    | ">>" => return .file (descriptor.getD 1) .appending w
    | "<>" => return .file (descriptor.getD 0) .both w
    | "<&" => return .copy (descriptor.getD 0) w
    | ">&" => return .copy (descriptor.getD 1) w
    | "<<-" => return .text (descriptor.getD 0) (← readDocument commands w true)
    | _ => return .text (descriptor.getD 0) (← readDocument commands w false)
  | t => unexpected t

/-- Reads redirections. -/
def readRedirections (commands : Scan Command) : Nat → Scan (List Redirection)
  | 0 => pure []
  | fuel + 1 => do
    match ← peekToken commands with
    | .redirection descriptor sign =>
      let _ ← token commands
      let first ← readRedirection commands descriptor sign
      return first :: (← readRedirections commands fuel)
    | _ => return []

/-! ## Lists -/

section

variable (command : Scan Command) (commands : Scan Command)

/-- Reads the commands after a bar. -/
def readPiped : Nat → Scan (List Command)
  | 0 => pure []
  | fuel + 1 => do
    match ← peekToken commands with
    | .sign "|" =>
      let _ ← token commands
      linebreak commands
      let first ← command
      return first :: (← readPiped fuel)
    | _ => return []

/-- Reads a pipeline, which may be negated. -/
def readPipeline : Scan Command := do
  let negated := (← peekToken commands).reserved? == some "!"
  if negated then
    let _ ← token commands
  let first ← command
  let rest ← readPiped command commands (← Scan.fuel)
  let whole := if rest.isEmpty then first else .pipeline (first :: rest)
  return if negated then .negated whole else whole

/-- Reads the pipelines that are joined to one that has been read. -/
def readJoined : Nat → Command → Scan Command
  | 0, read => return read
  | fuel + 1, read => do
    match ← peekToken commands with
    | .sign "&&" =>
      let _ ← token commands
      linebreak commands
      readJoined fuel (.both read (← readPipeline command commands))
    | .sign "||" =>
      let _ ← token commands
      linebreak commands
      readJoined fuel (.either read (← readPipeline command commands))
    | _ => return read

/-- Reads pipelines that are joined to one another. -/
def readChain : Scan Command := do
  readJoined command commands (← Scan.fuel) (← readPipeline command commands)

/-- Reads a list of commands; `read` are those before, in reverse.  A list that is `whole` is a line
of the script, and one that is `required` has at least one command. -/
def readListFrom (whole : Bool) : Nat → Bool → List Command → Scan (List Command)
  | 0, _, _ => Scan.fail "word unexpected"
  | fuel + 1, required, read => do
    let t ← peekToken commands
    match t with
    | .newline =>
      let _ ← token commands
      if whole then return read.reverse else readListFrom whole fuel required read
    | .finish => return read.reverse
    | t =>
      if !whole && !required && t.endsList then return read.reverse
      else
        let next ← readChain command commands
        let t ← peekToken commands
        match t with
        | .newline | .finish => readListFrom whole fuel false (next :: read)
        | .sign ";" =>
          let _ ← token commands
          readListFrom whole fuel false (next :: read)
        | .sign "&" =>
          let _ ← token commands
          readListFrom whole fuel false (.background next :: read)
        | t => if whole then unexpected t else return (next :: read).reverse

end

/-- Reads a list of commands that may be empty. -/
def readList (command : Scan Command) : Nat → Bool → Scan Command
  | 0, _ => Scan.fail "word unexpected"
  | depth + 1, required => do
    let commands := readList command depth false
    return .ofList (← readListFrom command commands false (← Scan.fuel) required [])

/-! ## Simple commands -/

/-- A simple command while it is read; words and redirections are in reverse. -/
structure SimpleCommand where
  assignments : List (String × Word)
  words : List Word
  redirections : List Redirection

/-- A simple command with a further word, which is an assignment if there are only such so far. -/
def SimpleCommand.push (c : SimpleCommand) (w : Word) : SimpleCommand :=
  match c.words, w.assignment? with
  | [], some a => { c with assignments := a :: c.assignments }
  | _, _ => { c with words := w :: c.words }

/-- The names of the commands that are part of the language. -/
def specialNames : List String :=
  [".", ":", "break", "continue", "eval", "exec", "exit", "export", "readonly", "return", "set",
    "shift", "times", "trap", "unset"]

/-- Reads the rest of a simple command, or of the definition of a function. -/
def readSimple (command commands : Scan Command) (line : Nat) :
    Nat → SimpleCommand → Scan Command
  | 0, _ => Scan.fail "word unexpected"
  | fuel + 1, c => do
    let t ← peekToken commands
    match t with
    | .word w =>
      let _ ← token commands
      readSimple command commands line fuel (c.push w)
    | .redirection descriptor sign =>
      let _ ← token commands
      let r ← readRedirection commands descriptor sign
      readSimple command commands line fuel { c with redirections := r :: c.redirections }
    | _ =>
      match t, c.assignments, c.words, c.redirections with
      | .sign "(", [], [w], [] =>
        let _ ← token commands
        expectSign commands ")"
        match w.plainText? with
        | some name =>
          if !isName name || specialNames.contains (Octets.key name) then
            Scan.fail "Bad function name"
          else
            linebreak commands
            return .definition line (Octets.key name) (← command)
        | none => Scan.fail "Bad function name"
      | _, _, _, _ =>
        return .simple line c.assignments.reverse c.words.reverse c.redirections.reverse

/-! ## Compound commands -/

section

variable (command commands required : Scan Command)

/-- Reads the rest of a conditional, from after its first word on. -/
def readConditional : Nat → Scan Command
  | 0 => Scan.fail "word unexpected"
  | fuel + 1 => do
    let test ← required
    expect commands "then"
    let success ← required
    let t ← token commands
    match t.reserved? with
    | some "elif" => return .conditional test success (← readConditional fuel)
    | some "else" =>
      let failure ← required
      expect commands "fi"
      return .conditional test success failure
    | some "fi" => return .conditional test success .nothing
    | _ => unexpectedFor t "fi"

/-- Reads the body of a loop. -/
def readBody : Scan Command := do
  expect commands "do"
  let body ← required
  expect commands "done"
  return body

/-- Reads words up to the end of the line or a semicolon, which is passed over. -/
def readWords : Nat → Scan (List Word)
  | 0 => pure []
  | fuel + 1 => do
    match ← token commands with
    | .word w => return w :: (← readWords fuel)
    | .newline | .sign ";" => return []
    | t => unexpected t

/-- Reads a loop over words, from after its first word on. -/
def readEach (line : Nat) : Scan Command := do
  let t ← token commands
  match t with
  | .word w =>
    match w.plainText? with
    | some name =>
      if !isName name then Scan.fail "Bad for loop variable"
      else
        linebreak commands
        let t ← peekToken commands
        if t.reserved? == some "in" then
          let _ ← token commands
          let words ← readWords commands (← Scan.fuel)
          linebreak commands
          return .each line (Octets.key name) (some words) (← readBody commands required)
        else
          match t with
          | .sign ";" =>
            let _ ← token commands
          | _ => pure ()
          linebreak commands
          return .each line (Octets.key name) none (← readBody commands required)
    | none => Scan.fail "Bad for loop variable"
  | _ => Scan.fail "Bad for loop variable"

/-- Reads the patterns of an arm and the parenthesis after them. -/
def readPatterns : Nat → Scan (List Word)
  | 0 => Scan.fail "word unexpected"
  | fuel + 1 => do
    match ← token commands with
    | .word w =>
      match ← token commands with
      | .sign "|" => return w :: (← readPatterns fuel)
      | .sign ")" => return [w]
      | t => unexpectedFor t ")"
    | t => unexpected t

/-- Reads the arms of a choice, up to the word that ends it. -/
def readArms : Nat → Scan (List (List Word × Command))
  | 0 => Scan.fail "word unexpected"
  | fuel + 1 => do
    linebreak commands
    let t ← peekToken commands
    if t.reserved? == some "esac" then
      let _ ← token commands
      return []
    else
      match t with
      | .sign "(" =>
        let _ ← token commands
      | _ => pure ()
      let patterns ← readPatterns commands (← Scan.fuel)
      let body ← commands
      let t ← token commands
      match t with
      | .sign ";;" => return (patterns, body) :: (← readArms fuel)
      | _ =>
        if t.reserved? == some "esac" then return [(patterns, body)]
        else unexpectedFor t ";;"

/-- Reads a choice, from after its first word on. -/
def readChoice (line : Nat) : Scan Command := do
  match ← token commands with
  | .word subject =>
    linebreak commands
    let t ← token commands
    if t.reserved? ≠ some "in" then unexpectedFor t "in"
    else return .choice line subject (← readArms commands (← Scan.fuel))
  | t => unexpected t

/-- Reads a command that starts with a reserved word. -/
def readReserved (line : Nat) (t : Token) : Option String → Option (Scan Command)
  | some "if" => some do readConditional commands required (← Scan.fuel)
  | some "while" => some do
    let test ← required
    return .loop false test (← readBody commands required)
  | some "until" => some do
    let test ← required
    return .loop true test (← readBody commands required)
  | some "for" => some (readEach commands required line)
  | some "case" => some (readChoice commands line)
  | some "\x7b" => some do
    let body ← required
    expect commands "\x7d"
    return body
  | some r =>
    if r == "in" then none else some (unexpected t)
  | none => none

end

/-! ## All commands -/

/-- The text that stands for a word, unless the word stands in that text. -/
def aliasText? (s : Source) (t : Token) : Option (String × Octets) :=
  match t with
  | .word w =>
    match w.plainText? with
    | some text =>
      let name := Octets.key text
      if s.inAliases.any fun a => a.1 == name && a.2 < s.rest.length then none
      else (Dictionary.find? name s.aliases).map fun value => (name, value)
    | none => none
  | _ => none

/-- Puts the texts of aliases in place of the word that a command starts with. -/
def replaceAliases (commands : Scan Command) : Nat → Scan Unit
  | 0 => pure ()
  | fuel + 1 => do
    let t ← peekToken commands
    let s ← get
    match aliasText? s t with
    | some (name, text) =>
      set { s with
        rest := text ++ s.rest
        bound := s.bound + Source.boundOf text
        ahead := none
        inAliases := (name, s.rest.length) :: s.inAliases }
      replaceAliases commands fuel
    | none => pure ()

/-- Reads a command; `command` is for those inside of it. -/
def readCommandWith (command : Scan Command) (depth : Nat) : Scan Command := do
  let commands := readList command depth false
  let required := readList command depth true
  replaceAliases commands 20
  let t ← peekToken commands
  let line := (← get).line
  let compound : Option (Scan Command) := match t with
    | .sign "(" => some do
      let body ← required
      expectSign commands ")"
      return .subshell line body
    | .sign _ | .newline | .finish => some (unexpected t)
    | t => readReserved commands required line t t.reserved?
  match compound with
  | some read =>
    let _ ← token commands
    let body ← read
    let redirections ← readRedirections commands (← Scan.fuel)
    return if redirections.isEmpty then body else .redirected line body redirections
  | none => readSimple command commands line (← Scan.fuel) ⟨[], [], []⟩

/-- How deeply commands may be nested. -/
def nestingLimit : Nat := 200

/-- Reads a command with commands inside of it up to a depth. -/
def readCommand : Nat → Scan Command
  | 0 => Scan.fail "word unexpected"
  | depth + 1 => readCommandWith (readCommand depth) nestingLimit

/-- Reads a line of a script. -/
def readLine : Scan Command := do
  let command := readCommand nestingLimit
  let commands := readList command nestingLimit false
  return .ofList (← readListFrom command commands true (← Scan.fuel) false [])

end JsonShell.Interpreter
