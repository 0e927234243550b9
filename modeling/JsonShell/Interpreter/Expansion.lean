import JsonShell.Interpreter.Arithmetic
import JsonShell.Interpreter.Field
import JsonShell.Interpreter.Machine

/-!
# Expanding words

When a command runs, the parts of its words are worked out from left to right: values of parameters,
what commands print, and arithmetic.  A word then becomes fields, and a field with wildcards stands
for the files that it matches.

Words are nested in words, and commands in words.  What expands and runs those is an `Engine`, so
that everything here is plain recursion; the engine itself is tied together where commands run.
-/

set_option autoImplicit false

namespace JsonShell.Interpreter

/-- Where parts stand: in a word, in a word beside a parameter, or between quotes. -/
inductive Mode where
  | outer
  | inner
  | quoted
deriving DecidableEq, Repr

/-- Why there is no program of a name: the status that this gives, and what is said about it. -/
structure NoProgram where
  status : Nat
  message : String

/-- What runs the commands and expands the words inside of others. -/
structure Engine where
  /-- Runs a command, whose failure ends a strict shell unless it is `tested`. -/
  run : (tested : Bool) → Command → Shell Unit
  /-- Works out the parts of a word. -/
  expand : Mode → Word → Shell (List Atom)
  /-- What a command prints. -/
  output : Command → Shell Octets
  /-- Runs a program with arguments to its end, if there is one. -/
  start : List Octets → Shell (Except NoProgram Ending)

namespace Shell

/-! ## Parameters -/

/-- The separators of fields. -/
def separators : Shell Octets := do
  match ← valueOf? "IFS" with
  | some s => return s
  | none =>
    match ← binding? "IFS" with
    | some _ => return []
    | none => return Field.usualSeparators

/-- What stands between arguments that are put into one. -/
def joint : Shell Octets := do
  return (← separators).take 1

/-- The values of a parameter, `none` if it is not set.  Only that of all arguments may have several
or none. -/
def values? (p : Parameter) : Shell (Option (List Octets)) := do
  let s ← process
  match p with
  | .named name => return (← valueOf? name).map ([·])
  | .position 0 => return some [s.name]
  | .position (n + 1) => return s.args[n]?.map ([·])
  | .count => return some [Octets.natural s.args.length]
  | .joined | .each => return some s.args
  | .process => return some [Octets.natural s.shell]
  | .status => return some [Octets.natural s.status]
  | .job => return s.lastJob.map fun n => [Octets.natural n]
  | .options => return some [s.options]

/-- The parameter is all arguments. -/
def isAll : Parameter → Bool
  | .joined | .each => true
  | _ => false

/-- How messages name a parameter. -/
def parameterName : Parameter → Octets
  | .named name => name.toList
  | .position n => Octets.natural n
  | .count => ['#']
  | .joined => ['*']
  | .each => ['@']
  | .process => ['$']
  | .status => ['?']
  | .job => ['!']
  | .options => ['-']

/-- The atoms of values. -/
def valueAtoms (quoted joined : Bool) (values : List Octets) : Shell (List Atom) := do
  if quoted then
    if joined then return Field.kept ((← joint).intercalate values)
    else return [Atom.cut].intercalate (values.map fun v => .mark :: Field.kept v)
  else return [Atom.cut].intercalate (values.map Field.splitting)

/-- A value that has to be set if the shell is strict about that. -/
def required (p : Parameter) (values : Option (List Octets)) : Shell (List Octets) := do
  match values with
  | some vs => return vs
  | none =>
    if ← hasOption 'u' then failWith (parameterName p ++ ": parameter not set".toList)
    else return [[]]

/-! ## Tildes -/

/-- The home directory of a user, or of the one who runs the script. -/
def home? (user : Octets) : Shell (Option Octets) := do
  if user.isEmpty then valueOf? "HOME"
  else if user = "root".toList then return some "/root".toList
  else return none

/-- Puts the home directory in place of a tilde at the start of a word, up to a slash or, in an
assignment, a colon. -/
def expandTilde (assigned : Bool) (w : Word) : Shell Word := do
  match w with
  | .plain '~' :: rest =>
    let isEnd (c : Char) : Bool := c == '/' || (assigned && c == ':')
    let user := (Word.plainStart rest).takeWhile fun c => !isEnd c
    let after := rest.drop user.length
    let ends : Bool := match after with
      | [] => true
      | .plain c :: _ => isEnd c
      | _ => false
    if !ends then return w
    else
      match ← home? user with
      | some home => return .quoted (home.map .literal) :: after
      | none => return w
  | _ => return w

/-- Expands the tildes of an assigned value: at its start and after colons. -/
def expandTildes : Nat → Word → Shell Word
  | 0, w => return w
  | fuel + 1, w => do
    let w ← expandTilde true w
    let isColon : Part → Bool
      | .plain ':' => true
      | _ => false
    let before := w.takeWhile fun part => !isColon part
    match w.drop before.length with
    | colon :: rest => return before ++ colon :: (← expandTildes fuel rest)
    | [] => return before

/-! ## Arithmetic -/

/-- The integer that a variable holds; without a value it is zero. -/
def integerOf (name : String) : Shell Int := do
  let value := (← values? (.named name)).bind List.head?
  let text := value.getD []
  match readInteger? true text with
  | some r => if r.rest.all Octets.isSpace && r.fits then return r.signed
  | none => if text.all Octets.isSpace then return 0
  failWith ("Illegal number: ".toList ++ text)

/-- Works out an arithmetic expression. -/
def calculate (text : Octets) : Shell Int := do
  let fail (reason : String) : Shell Int :=
    failWith ("arithmetic expression: ".toList ++ reason.toList ++ ": \"".toList ++ text ++ ['"'])
  match Arithmetic.parse text with
  | .error reason => fail reason
  | .ok e =>
    Arithmetic.evaluate integerOf (fun name n => assign name (Octets.integer n)) fail e

/-! ## Parts -/

section

variable (engine : Engine)

/-- Works out a word as a text that is not cut. -/
def textOf (mode : Mode) (w : Word) : Shell Octets := do
  let atoms ← engine.expand mode w
  return Glyph.text (Field.uncut (← joint) atoms)

/-- The atoms of a parameter whose value may be missing. -/
def withFallback (mode : Mode) (p : Parameter) (kind : Fallback) (ifEmpty : Bool) (w : Word)
    (values : Option (List Octets)) : Shell (List Atom) := do
  let quoted := mode == .quoted
  let isMissing : Bool := match values with
    | none => true
    | some vs => (isAll p && vs.isEmpty) || (ifEmpty && vs.all (·.isEmpty))
  let beside : Mode := if quoted then .quoted else .inner
  let own : Shell (List Atom) := valueAtoms quoted (p == .joined) (values.getD [])
  match kind with
  | .value => if isMissing then engine.expand beside (← expandUnquoted w) else own
  | .replacement => if isMissing then return [] else engine.expand beside (← expandUnquoted w)
  | .assigned =>
    if isMissing then
      let text ← textOf engine beside (← expandUnquoted w)
      match p with
      | .named name =>
        assign name text
        valueAtoms quoted false [text]
      | _ => failWith (parameterName p ++ ": bad variable name".toList)
    else own
  | .complaint =>
    if isMissing then
      let message ← textOf engine beside (← expandUnquoted w)
      let usual := if ifEmpty then "parameter not set or null" else "parameter not set"
      failWith (parameterName p ++ ": ".toList ++
        if message.isEmpty then usual.toList else message)
    else own
where
  /-- The word with its tilde expanded, outside of quotes. -/
  expandUnquoted (w : Word) : Shell Word :=
    if mode == .quoted then pure w else expandTilde false w

/-- The atoms of a parameter. -/
def parameterAtoms (mode : Mode) (p : Parameter) (operation : Operation) : Shell (List Atom) := do
  let quoted := mode == .quoted
  let values ← values? p
  match operation with
  | .none => valueAtoms quoted (p == .joined) (← required p values)
  | .length =>
    let length := ([' '].intercalate (← required p values)).length
    valueAtoms quoted false [Octets.natural length]
  | .fallback kind ifEmpty w => withFallback engine mode p kind ifEmpty w values
  | .trim atEnd longest w =>
    let values ← required p values
    let pattern := Pattern.ofGlyphs (Field.uncut (← joint)
      (← engine.expand .outer (← expandTilde false w)))
    let trim (v : Octets) : Octets :=
      if atEnd then pattern.trimEnd longest v else pattern.trimStart longest v
    valueAtoms quoted (p == .joined) (values.map trim)
  | .invalid => failWith "Bad substitution".toList

/-- The atoms of a character. -/
def characterAtoms (mode : Mode) (c : Char) : List Atom :=
  match mode with
  | .outer => [.glyph ⟨c, true⟩ false]
  | .inner => [.glyph ⟨c, true⟩ true]
  | .quoted => Field.kept [c]

/-- The atoms of a part of a word. -/
def partAtoms (mode : Mode) (part : Part) : Shell (List Atom) := do
  let quoted := mode == .quoted
  match part with
  | .plain c => return characterAtoms mode c
  | .literal c => return Field.kept [c]
  | .quoted [.value .each .none] => engine.expand .quoted [.value .each .none]
  | .quoted parts => return .mark :: (← engine.expand .quoted parts)
  | .value p operation => parameterAtoms engine mode p operation
  | .output command => valueAtoms quoted false [Octets.dropFinalBreaks (← engine.output command)]
  | .arithmetic expression =>
    let n ← calculate (← textOf engine .quoted expression)
    valueAtoms quoted false [Octets.integer n]

/-- The atoms of parts, one after the other. -/
def expandParts (mode : Mode) : Word → Shell (List Atom)
  | [] => return []
  | part :: rest => do
    let first ← partAtoms engine mode part
    return first ++ (← expandParts mode rest)

end

/-! ## Files that match -/

/-- The pieces of a path with wildcards. -/
def pathPieces (field : List Glyph) : List (List Glyph) :=
  field.foldr
    (fun g pieces => match g.char, pieces with
      | '/', pieces => [] :: pieces
      | _, piece :: pieces => (g :: piece) :: pieces
      | _, [] => [[g]])
    [[]]

/-- The names in a directory that a pattern matches.  Names that start with a dot are matched only
by a pattern that does so too. -/
def matchingNames (t : FileTree) (directory : Octets) (pattern : Pattern) : List Octets :=
  let directory := if directory.isEmpty then ['.'] else directory
  match t.children (pathOf directory) with
  | .error _ => []
  | .ok entries =>
    let names := entries.map fun entry => Octets.ofString (String.ofList entry.1)
    let names := if pattern.head? == some (.char '.') then ['.'] :: ['.', '.'] :: names else names
    names.filter fun name =>
      (name.head? != some '.' || pattern.head? == some (.char '.')) && pattern.isMatch name

/-- The paths that start with `found` and go on as the pieces say. -/
def matchingPaths (t : FileTree) (found : Octets) (isSure : Bool) :
    List (List Glyph) → List Octets
  | [] => if isSure || t.isPresent (pathOf found) then [found] else []
  | piece :: rest =>
    let ending : Octets := if rest.isEmpty then [] else ['/']
    let pattern := Pattern.ofGlyphs piece
    if pattern.isOpen then
      (matchingNames t found pattern).flatMap fun name =>
        let next := found ++ name
        if rest.isEmpty then [next]
        else if t.isDirectory (pathOf next) then matchingPaths t (next ++ ending) true rest
        else []
    else
      let text := pattern.filterMap fun w => match w with
        | .char c => some c
        | _ => none
      matchingPaths t (found ++ text ++ ending) (isSure && text.isEmpty) rest

/-- The texts that a field stands for: the paths that it matches, or itself. -/
def pathsOf (field : List Glyph) : Shell (List Octets) := do
  let text := Glyph.text field
  if (Pattern.ofGlyphs field).isOpen && !(← hasOption 'f') then
    match matchingPaths (← files) [] true (pathPieces field) with
    | [] => return [text]
    | paths => return Octets.sorted paths
  else return [text]

/-! ## Words -/

section

variable (engine : Engine)

/-- The arguments that a word stands for. -/
def argumentsOf (w : Word) : Shell (List Octets) := do
  let atoms ← engine.expand .outer (← expandTilde false w)
  let paths ← (Field.fields (← separators) atoms).mapM pathsOf
  return paths.flatten

/-- The text of a word that is not cut. -/
def wholeText (w : Word) : Shell Octets := do
  textOf engine .outer (← expandTilde false w)

/-- The text of a value that is assigned. -/
def assignedText (w : Word) : Shell Octets := do
  textOf engine .outer (← expandTildes w.length w)

/-- The pattern that a word writes. -/
def patternOf (w : Word) : Shell Pattern := do
  let atoms ← engine.expand .outer (← expandTilde false w)
  return Pattern.ofGlyphs (Field.uncut (← joint) atoms)

/-- The arguments that words stand for; `assigns` keeps a word that is an assignment whole. -/
def argumentsOfAll (assigns : Bool) (words : List Word) : Shell (List Octets) := do
  let arguments ← words.mapM fun w => do
    match assigns, w.assignment? with
    | true, some (name, value) =>
      return [name.toList ++ '=' :: (← assignedText engine value)]
    | _, _ => argumentsOf engine w
  return arguments.flatten

end

end Shell

end JsonShell.Interpreter
