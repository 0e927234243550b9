import JsonShell.Interpreter.Intrinsic.Basic

/-!
# Commands on variables and arguments

`export`, `readonly` and `local` say what holds for variables, `unset` removes them, `set` and
`shift` change the arguments and the options, `read` takes a line apart and `getopts` goes through
options.
-/

set_option autoImplicit false

namespace JsonShell.Interpreter.Intrinsic

open Shell

/-! ## What holds for variables -/

/-- The lines that would make the bindings that have a property. -/
def declarations (command : String) (p : Binding → Bool) : Shell Unit := do
  for (name, b) in (← process).bindings do
    if p b then
      let value := match b.value with
        | some v => '=' :: quote v
        | none => []
      print (command.toList ++ ' ' :: name.toList ++ value)

/-- Gives a variable a value if there is one, and changes what holds for it. -/
def declare (change : Binding → Binding) (arg : Octets) : Shell Unit := do
  let (name, value) := declaration arg
  checkName name
  let key := Octets.key name
  match value with
  | some v => assign key v
  | none => pure ()
  let b := (← binding? key).getD ⟨none, false, false⟩
  setBinding key (some (change b))

/-- `export` and `readonly`. -/
def declareAll (command : String) (p : Binding → Bool) (change : Binding → Binding)
    (args : List Octets) : Shell Nat := do
  let o ← options "p" args
  if o.rest.isEmpty || o.has 'p' then declarations command p
  else o.rest.forM (declare change)
  return 0

/-- `local`: bindings that come back at the end of the function. -/
def declareLocal (args : List Octets) : Shell Nat := do
  let p ← process
  match p.saved with
  | [] => failWith "not in a function".toList
  | frame :: outer =>
    if p.functionDepth = 0 then failWith "not in a function".toList
    let names := args.map fun arg => Octets.key (declaration arg).1
    let fresh := names.filter fun name => !frame.any fun s => s.1 == name
    let frame := fresh.map (fun name => (name, Dictionary.find? name p.bindings)) ++ frame
    modifyProcess fun p => { p with saved := frame :: outer }
    args.forM (declare id)
    return 0

/-- `unset`. -/
def remove (args : List Octets) : Shell Nat := do
  let o ← options "vf" args
  for name in o.rest do
    let key := Octets.key name
    if o.has 'f' then
      modifyProcess fun p => { p with functions := Dictionary.erase key p.functions }
    else
      checkName name
      match ← binding? key with
      | some b =>
        if b.fixed then failWith (name ++ ": is read only".toList) else setBinding key none
      | none => pure ()
  return 0

/-! ## Options and arguments of the shell -/

/-- The names of the options and their letters. -/
def optionNames : List (String × Char) :=
  [("errexit", 'e'), ("noglob", 'f'), ("ignoreeof", 'I'), ("interactive", 'i'), ("monitor", 'm'),
    ("noexec", 'n'), ("stdin", 's'), ("xtrace", 'x'), ("verbose", 'v'), ("vi", 'V'), ("emacs", 'E'),
    ("noclobber", 'C'), ("allexport", 'a'), ("notify", 'b'), ("nounset", 'u')]

/-- Turns an option on or off; the letters of options that are on keep their order. -/
def turn (letter : Char) (on : Bool) : Shell Unit :=
  modifyProcess fun p =>
    let isOn (c : Char) : Bool := if c == letter then on else p.options.contains c
    { p with options := (optionNames.map Prod.snd).filter isOn }

/-- Turns the options of letters on or off. -/
def turnAll (on : Bool) (letters : Octets) : Shell Unit :=
  letters.forM fun c => do
    if optionNames.any fun o => o.2 == c then turn c on
    else failWith ("Illegal option ".toList ++ [if on then '-' else '+', c])

/-- Shows which options are on. -/
def showOptions : Shell Unit := do
  write 1 "Current option settings\n".toList
  let p ← process
  for (name, letter) in optionNames do
    let padding := String.ofList (List.replicate (16 - name.length) ' ')
    print (name ++ padding ++ if p.options.contains letter then "on" else "off").toList

/-- Turns an option on or off by its name. -/
def turnNamed (on : Bool) (name : Octets) : Shell Unit :=
  match optionNames.lookup (Octets.key name) with
  | some letter => turn letter on
  | none => failWith ("Illegal option ".toList ++ [if on then '-' else '+'] ++ "o ".toList ++ name)

/-- Takes options off the front of arguments; what is left become the arguments of the shell, if
there is anything left or the end of the options is marked. -/
def takeOptions : Nat → List Octets → Shell (Option (List Octets))
  | 0, _ => return none
  | fuel + 1, args =>
    match args with
    | [] => return none
    | ['-', '-'] :: rest => return some rest
    | ['-'] :: rest => do
      turnAll false ['v', 'x']
      if rest.isEmpty then return none else return some rest
    | ['-', 'o'] :: name :: rest => do
      turnNamed true name
      takeOptions fuel rest
    | ['+', 'o'] :: name :: rest => do
      turnNamed false name
      takeOptions fuel rest
    | [['-', 'o']] | [['+', 'o']] => do
      showOptions
      return none
    | ('-' :: letters) :: rest => do
      turnAll true letters
      takeOptions fuel rest
    | ('+' :: letters) :: rest => do
      turnAll false letters
      takeOptions fuel rest
    | args => return some args

/-- `set`. -/
def setArguments (args : List Octets) : Shell Nat := do
  if args.isEmpty then
    for (name, b) in (← process).bindings do
      match b.value with
      | some v => print (name.toList ++ '=' :: quote v)
      | none => pure ()
  else
    match ← takeOptions (args.length + 1) args with
    | some rest => modifyProcess fun p => { p with args := rest, optionOffset := 0 }
    | none => pure ()
  return 0

/-- `shift`. -/
def shift (args : List Octets) : Shell Nat := do
  let n ← match args with
    | [] => pure 1
    | arg :: _ => naturalOf arg
  if (← process).args.length < n then failWith "can't shift that many".toList
  modifyProcess fun p => { p with args := p.args.drop n }
  return 0

/-! ## Reading lines -/

/-- A line as it is read: its characters, which are active unless a backslash keeps them, how many
characters it takes, and whether it ends. -/
structure Line where
  glyphs : List Glyph
  length : Nat
  isWhole : Bool

/-- The line at the start of a text.  A backslash keeps the character after it and joins lines. -/
def lineOf (raw : Bool) (read : List Glyph) (length : Nat) : Octets → Line
  | [] => ⟨read.reverse, length, false⟩
  | '\n' :: _ => ⟨read.reverse, length + 1, true⟩
  | '\x00' :: rest => lineOf raw read (length + 1) rest
  | '\\' :: rest =>
    if raw then lineOf raw (⟨'\\', true⟩ :: read) (length + 1) rest
    else
      match rest with
      | '\n' :: rest => lineOf raw read (length + 2) rest
      | c :: rest => lineOf raw (⟨c, false⟩ :: read) (length + 2) rest
      | [] => ⟨read.reverse, length + 1, false⟩
  | c :: rest => lineOf raw (⟨c, true⟩ :: read) (length + 1) rest

/-- Values for so many variables from a line; the last one takes all that is left. -/
def valuesOf (separators : Octets) : Nat → List Glyph → List Octets
  | 0, _ => []
  | more + 1, line =>
    let isSeparator (g : Glyph) : Bool := g.active && separators.contains g.char
    let isWhite (g : Glyph) : Bool := isSeparator g && Field.isWhite g.char
    let line := line.dropWhile isWhite
    let field := line.takeWhile fun g => !isSeparator g
    let after := (line.drop field.length).dropWhile isWhite
    let after := match after with
      | g :: rest => if isSeparator g then rest.dropWhile isWhite else g :: rest
      | [] => []
    if more = 0 then
      if after.isEmpty then [Glyph.text field]
      else [Glyph.text (line.reverse.dropWhile isWhite).reverse]
    else Glyph.text field :: valuesOf separators more after

/-- `read`. -/
def readLine (args : List Octets) : Shell Nat := do
  let o ← options "p:r" args
  if o.rest.isEmpty then failWith "arg count".toList
  o.rest.forM checkName
  match ← unread? 0 with
  | none =>
    complain "read error: 0: Bad file descriptor".toList
    return 1
  | some (text, consume) =>
    let line := lineOf (o.has 'r') [] 0 text
    consume line.length
    let values := valuesOf (← separators) o.rest.length line.glyphs
    (o.rest.zip values).forM fun (name, value) => assign (Octets.key name) value
    return if line.isWhole then 0 else 1

/-! ## Going through options -/

/-- The next option in arguments: the number of the argument to go on with, the place inside of it,
the letter, its value, and whether the letter is known and has the value it needs. -/
inductive NextOption where
  | over (index : Nat)
  | option (index offset : Nat) (letter : Char) (value : Option Octets)
  | unknown (index offset : Nat) (letter : Char)
  | missing (index : Nat) (letter : Char)

/-- The next option; `index` counts arguments from 1 on, and `offset` is 0 before an argument. -/
def nextOption (letters : Octets) (args : List Octets) (index offset : Nat) : NextOption :=
  let arg := (args.drop (index - 1)).head?.getD []
  let start : Option Nat :=
    if offset = 0 then
      match arg with
      | ['-', '-'] => none
      | '-' :: _ :: _ => some 1
      | _ => none
    else some offset
  match start with
  | none => .over (if arg = ['-', '-'] then index + 1 else index)
  | some start =>
    match arg.drop start with
    | [] => .over index
    | c :: more =>
      let (nextIndex, nextOffset) := if more.isEmpty then (index + 1, 0) else (index, start + 1)
      match letters.dropWhile (· != c), c == ':' with
      | _ :: ':' :: _, false =>
        if !more.isEmpty then .option (index + 1) 0 c (some more)
        else
          match (args.drop index).head? with
          | some value => .option (index + 2) 0 c (some value)
          | none => .missing (index + 1) c
      | _ :: _, false => .option nextIndex nextOffset c none
      | _, _ => .unknown nextIndex nextOffset c

/-- `getopts`. -/
def getOption (args : List Octets) : Shell Nat := do
  match args with
  | letters :: name :: rest =>
    checkName name
    let p ← process
    let given := if rest.isEmpty then p.args else rest
    let index := (((← valueOf? "OPTIND").bind natural?).getD 1)
    let isQuiet := letters.head? == some ':'
    let key := Octets.key name
    let finish (index offset : Nat) (letter : Octets) (status : Nat) : Shell Nat := do
      assign "OPTIND" (Octets.natural index)
      modifyProcess fun p => { p with optionOffset := offset }
      assign key letter
      return status
    match nextOption letters given (max index 1) p.optionOffset with
    | .over index =>
      setBinding "OPTARG" none
      finish index 0 ['?'] 1
    | .option index offset letter value =>
      match value with
      | some v => assign "OPTARG" v
      | none => setBinding "OPTARG" none
      finish index offset [letter] 0
    | .unknown index offset letter =>
      if isQuiet then assign "OPTARG" [letter]
      else
        setBinding "OPTARG" none
        write 2 ("Illegal option -".toList ++ [letter, '\n'])
      finish index offset ['?'] 0
    | .missing index letter =>
      if isQuiet then
        assign "OPTARG" [letter]
        finish index 0 [':'] 0
      else
        setBinding "OPTARG" none
        write 2 ("No arg for -".toList ++ [letter] ++ " option\n".toList)
        finish index 0 ['?'] 0
  | _ => failWith "Usage: getopts optstring var [arg]".toList

end JsonShell.Interpreter.Intrinsic
