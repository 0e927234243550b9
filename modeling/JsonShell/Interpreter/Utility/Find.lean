import JsonShell.Interpreter.Pattern
import JsonShell.Interpreter.Utility.Launch
import JsonShell.Interpreter.Utility.Names

/-!
# Finding files

`find` visits what is at and below some paths and works out an expression for each of them: tests,
which may be put together, and actions, which print a path, remove what is there or start a program.
-/

set_option autoImplicit false

namespace JsonShell.Interpreter.Utility

open Shell

/-- A comparison with a number: less, exactly, or more. -/
structure Bound where
  order : Ordering
  value : Nat

/-- A test or an action. -/
inductive Predicate where
  | always
  | never
  | name (pattern : Pattern) (ignoresCase : Bool)
  | path (pattern : Pattern)
  | kind (letters : List Char)
  | isEmpty
  | runs
  /-- The size in units of so many bytes. -/
  | size (b : Bound) (unit : Nat)
  | newer
  | print (ending : Octets)
  | prune
  | quit
  | delete
  /-- Starts a program for a path, or for all paths at the end. -/
  | start (atOnce : Bool) (program : List Octets)
  | negation (p : Predicate)
  | both (p q : Predicate)
  | either (p q : Predicate)

mutual

/-- The predicate does more than to test. -/
def Predicate.acts : Predicate → Bool
  | .print _ | .delete | .start _ _ | .quit => true
  | .negation p => p.acts
  | .both p q | .either p q => p.acts || q.acts
  | _ => false

end

/-- How far and in which order paths are visited. -/
structure Visiting where
  least : Nat := 0
  most : Option Nat := none
  /-- A directory is visited after what is in it. -/
  depthFirst : Bool := false

/-- The pattern that an argument writes. -/
def patternOfText (text : Octets) : Pattern :=
  Pattern.ofGlyphs (Glyph.ofText true text)

/-- The bound that a text writes, and what follows. -/
def boundOf (text : Octets) : Bound × Octets :=
  let (order, body) : Ordering × Octets := match text with
    | '+' :: body => (.gt, body)
    | '-' :: body => (.lt, body)
    | body => (.eq, body)
  let digits := body.takeWhile Char.isDigit
  (⟨order, digitsValue 10 digits⟩, body.drop digits.length)

/-- The value after a test. -/
def valueAfter (name : Octets) : List Octets → Except Octets (Octets × List Octets)
  | [] => .error ("missing argument to `".toList ++ name ++ ['\''])
  | value :: rest => .ok (value, rest)

/-- The program after an action, up to its end, and whether it is started once for all paths. -/
def programAfter : List Octets → List Octets → Except Octets ((Bool × List Octets) × List Octets)
  | _, [] => .error "missing argument to `-exec'".toList
  | program, [';'] :: rest => .ok ((false, program.reverse), rest)
  | program, ['+'] :: rest =>
    if program.head? == some ['{', '}'] then .ok ((true, (program.drop 1).reverse), rest)
    else programAfter (['+'] :: program) rest
  | program, word :: rest => programAfter (word :: program) rest

/-- Reads a test or an action by its name. -/
def readTest (name : Octets) (rest : List Octets) :
    Except Octets (Predicate × List Octets) := do
  let value : Except Octets (Octets × List Octets) := valueAfter name rest
  match Octets.key name with
  | "-true" => return (.always, rest)
  | "-false" => return (.never, rest)
  | "-print" => return (.print ['\n'], rest)
  | "-print0" => return (.print ['\x00'], rest)
  | "-prune" => return (.prune, rest)
  | "-quit" => return (.quit, rest)
  | "-delete" => return (.delete, rest)
  | "-empty" => return (.isEmpty, rest)
  | "-executable" => return (.runs, rest)
  | "-readable" | "-writable" | "-depth" | "-follow" | "-noleaf" | "-mount" | "-xdev" =>
    return (.always, rest)
  | "-name" | "-iname" =>
    let (text, rest) ← value
    let ignoresCase := Octets.key name = "-iname"
    let text := if ignoresCase then text.map Char.toLower else text
    return (.name (patternOfText text) ignoresCase, rest)
  | "-path" | "-wholename" =>
    let (text, rest) ← value
    return (.path (patternOfText text), rest)
  | "-type" =>
    let (text, rest) ← value
    return (.kind (text.filter (· != ',')), rest)
  | "-size" =>
    let (text, rest) ← value
    let (b, unit) := boundOf text
    let bytes := match unit with
      | ['c'] => 1
      | ['w'] => 2
      | ['k'] => 1024
      | ['M'] => 1048576
      | ['G'] => 1073741824
      | _ => 512
    return (.size b bytes, rest)
  | "-newer" | "-mtime" | "-mmin" | "-perm" | "-user" | "-group" =>
    let (_, rest) ← value
    return (.newer, rest)
  | "-maxdepth" | "-mindepth" =>
    let (_, rest) ← value
    return (.always, rest)
  | "-exec" | "-execdir" | "-ok" =>
    let ((atOnce, program), rest) ← programAfter [] rest
    return (.start atOnce program, rest)
  | _ => .error ("unknown predicate `".toList ++ name ++ ['\''])

/-- What part of an expression is read. -/
inductive FindLevel where
  | alternatives
  | chain
  | term

/-- Reads a part of an expression. -/
def readPredicate : Nat → FindLevel → List Octets → Except Octets (Predicate × List Octets)
  | 0, _, _ => .error "invalid expression".toList
  | fuel + 1, .alternatives, args => do
    let (p, rest) ← readPredicate fuel .chain args
    match rest with
    | op :: more =>
      if op = "-o".toList || op = "-or".toList then
        let (q, rest) ← readPredicate fuel .alternatives more
        return (.either p q, rest)
      else return (p, rest)
    | [] => return (p, [])
  | fuel + 1, .chain, args => do
    let (p, rest) ← readPredicate fuel .term args
    match rest with
    | [] => return (p, [])
    | op :: more =>
      if op = "-o".toList || op = "-or".toList || op = [')'] then return (p, rest)
      else
        let more := if op = "-a".toList || op = "-and".toList then more else rest
        let (q, rest) ← readPredicate fuel .chain more
        return (.both p q, rest)
  | fuel + 1, .term, args => do
    match args with
    | [] => .error "expected an expression".toList
    | ['!'] :: rest =>
      let (p, rest) ← readPredicate fuel .term rest
      return (.negation p, rest)
    | ['('] :: rest =>
      let (p, rest) ← readPredicate fuel .alternatives rest
      match rest with
      | [')'] :: rest => return (p, rest)
      | _ => .error "invalid expression; I was expecting to find a ')' somewhere".toList
    | name :: rest =>
      if name = "-not".toList then
        let (p, rest) ← readPredicate fuel .term rest
        return (.negation p, rest)
      else readTest name rest

/-- The options that say how paths are visited, wherever they stand. -/
def visitingOf : List Octets → Visiting
  | [] => {}
  | name :: rest =>
    let v := visitingOf rest
    match Octets.key name with
    | "-maxdepth" => { v with most := rest.head?.bind natural? }
    | "-mindepth" => { v with least := (rest.head?.bind natural?).getD 0 }
    | "-depth" | "-delete" => { v with depthFirst := true }
    | _ => v

/-- The arguments of `find`: paths, and the expression after them. -/
def splitPaths (args : List Octets) : List Octets × List Octets :=
  let isPath (arg : Octets) : Bool :=
    arg.head? != some '-' && arg ≠ ['('] && arg ≠ ['!'] && arg ≠ [')']
  let paths := args.takeWhile isPath
  (paths, args.drop paths.length)

/-- What has been found out on the way. -/
structure FindState where
  /-- The paths for the programs that are started at the end. -/
  gathered : List Octets
  pruned : Bool
  stopped : Bool
  failed : Bool

/-- The comparison holds. -/
def Bound.holds (b : Bound) (n : Nat) : Bool :=
  compare n b.value = b.order

/-- Works out a predicate for a path. -/
def Predicate.holds (engine : Engine) (path : Octets) (place : Place) (node : Node) :
    Predicate → FindState → Shell (Bool × FindState)
  | .always, s => return (true, s)
  | .never, s => return (false, s)
  | .name pattern ignoresCase, s =>
    let name := lastComponent path
    return (pattern.isMatch (if ignoresCase then name.map Char.toLower else name), s)
  | .path pattern, s => return (pattern.isMatch path, s)
  | .kind letters, s => return (letters.contains (if node = .directory then 'd' else 'f'), s)
  | .isEmpty, s => do
    match node with
    | .file content => return (content.isEmpty, s)
    | .directory => return (((← files).childrenOf place).isEmpty, s)
  | .runs, s => do
    let programs := (← world).programs
    return (node = .directory || programs.contains place, s)
  | .size b unit, s =>
    let size := match node with
      | .file content => content.length
      | .directory => 4096
    return (b.holds ((size + unit - 1) / unit), s)
  | .newer, s => return (false, s)
  | .print ending, s => do
    write 1 (path ++ ending)
    return (true, s)
  | .prune, s => return (true, { s with pruned := true })
  | .quit, s => return (true, { s with stopped := true })
  | .delete, s => do
    let remove (t : FileTree) : Except FileFault FileTree :=
      if node = .directory then t.removeDirectory (pathOf path) else t.removeFile (pathOf path)
    match ← changeFiles remove with
    | none => return (true, s)
    | some fault =>
      say "find" ("cannot delete ".toList ++ quoted path ++ ": ".toList ++ (faultText fault).toList)
      return (false, { s with failed := true })
  | .start atOnce program, s => do
    if atOnce then return (true, { s with gathered := s.gathered ++ [path] })
    else
      let words := program.map fun w => replaceMark ['{', '}'] path (w.length + 1) w
      let ending ← startNamed engine "find" true words
      return (ending.code = 0, s)
  | .negation p, s => do
    let (answer, s) ← p.holds engine path place node s
    return (!answer, s)
  | .both p q, s => do
    match ← p.holds engine path place node s with
    | (true, s) => if s.stopped then return (true, s) else q.holds engine path place node s
    | (false, s) => return (false, s)
  | .either p q, s => do
    match ← p.holds engine path place node s with
    | (true, s) => return (true, s)
    | (false, s) => q.holds engine path place node s

/-- Visits a path and all below it. -/
def visit (engine : Engine) (v : Visiting) (p : Predicate) :
    Nat → Nat → Octets → FindState → Shell FindState
  | 0, _, _, s => return s
  | fuel + 1, depth, path, s => do
    if s.stopped then return s
    match (← files).find (pathOf path) with
    | .error _ => return s
    | .ok (place, node) =>
      let look (s : FindState) : Shell FindState := do
        if depth < v.least || s.stopped then return s
        else return (← p.holds engine path place node { s with pruned := false }).2
      let s ← if v.depthFirst then pure { s with pruned := false } else look s
      let goesOn := node = .directory && !s.pruned && (match v.most with
        | some m => depth < m
        | none => true)
      let t ← files
      let names := if goesOn then
        Octets.sorted ((t.childrenOf place).map fun e => Octets.ofString (String.ofList e.1))
        else []
      let inside (name : Octets) : Octets :=
        if path.getLast? == some '/' then path ++ name else path ++ '/' :: name
      let s ← names.foldlM (fun s name => visit engine v p fuel (depth + 1) (inside name) s) s
      if v.depthFirst then look s else return s

/-- Starts the programs that are for all paths. -/
def startGathered (engine : Engine) (paths : List Octets) : Predicate → Shell Nat
  | .start true program => do
    if paths.isEmpty then return 0
    else return (← startNamed engine "find" true (program ++ paths)).code
  | .negation p => startGathered engine paths p
  | .both p q | .either p q => do
    return max (← startGathered engine paths p) (← startGathered engine paths q)
  | _ => return 0

/-- `find`. -/
def find : Utility := fun engine args => do
  let (paths, expression) := splitPaths args
  let paths := if paths.isEmpty then [['.']] else paths
  let read : Except Octets (Predicate × List Octets) :=
    if expression.isEmpty then .ok (.always, [])
    else readPredicate (2 * expression.length + 8) .alternatives expression
  match read with
  | .error message =>
    say "find" message
    return 1
  | .ok (p, _) =>
    let p := if p.acts then p else .both p (.print ['\n'])
    let t ← files
    let missing := paths.filter fun path => !t.isPresent (pathOf path)
    let limit := t.nodes.length + 2
    let s ← paths.foldlM
      (fun s path => do
        if !(← files).isPresent (pathOf path) then
          sayFault "find" (quoted path) .notFound
          return s
        else visit engine (visitingOf expression) p limit 0 path s)
      (⟨[], false, false, false⟩ : FindState)
    let status ← startGathered engine s.gathered p
    return statusOf (missing.isEmpty && !s.failed && status = 0)

end JsonShell.Interpreter.Utility
