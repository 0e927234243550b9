import JsonShell.Text.Blank
import JsonShell.Variable.Reference

/-!
# Headers of loops

A loop starts with `forloop SOURCE as $NAME do {` or `foreach SOURCE as $NAME do {`, with blanks
between the words and perhaps before the brace.  The source of `forloop` is one word.  The source of
`foreach` is any text: the shortest one after which the header goes on is taken.
-/

set_option autoImplicit false

namespace JsonShell

namespace Header

/-- The blanks that a text starts with are skipped; there must be one. -/
def skipBlanks? : List Char → Option (List Char)
  | [] => none
  | c :: rest => if isBlank c then some (rest.dropWhile isBlank) else none

/-- What follows a given word. -/
def skipWord? (word : String) (cs : List Char) : Option (List Char) :=
  if word.toList.isPrefixOf cs then some (cs.drop word.toList.length) else none

/-- The name in ` as $NAME do {` and what follows the brace. -/
def binder? (cs : List Char) : Option (List Char × List Char) := do
  let cs ← skipBlanks? cs
  let cs ← skipWord? "as" cs
  let cs ← skipBlanks? cs
  let cs ← skipWord? "$" cs
  let name := Reference.leadingName cs
  if name.isEmpty then none
  else
    let cs ← skipBlanks? (cs.drop name.length)
    let cs ← skipWord? "do" cs
    let cs ← skipWord? "\x7b" (cs.dropWhile isBlank)
    return (name, cs)

/-- The parts of a header and the text after its brace. -/
structure Parts where
  source : List Char
  var : List Char
  after : List Char
deriving DecidableEq, Repr

/-- The header of a loop over one word. -/
def counted? (line : List Char) : Option Parts := do
  let cs ← skipWord? "forloop" (line.dropWhile isBlank)
  let cs ← skipBlanks? cs
  let source := cs.takeWhile (!isBlank ·)
  let (var, after) ← binder? (cs.drop source.length)
  return ⟨source, var, after⟩

/-- The shortest source, of at least one character, after which a header goes on. -/
def shortestSource? : List Char → Option Parts
  | [] => none
  | c :: rest =>
    match binder? rest with
    | some (var, after) => some ⟨[c], var, after⟩
    | none => (shortestSource? rest).map fun p => { p with source := c :: p.source }

/-- The header found after skipping as many as possible of the first `blanks` characters. -/
def sourceAfter? : Nat → List Char → Option Parts
  | 0, _ => none
  | blanks + 1, cs =>
    match shortestSource? (cs.drop (blanks + 1)) with
    | some p => some p
    | none => sourceAfter? blanks cs

/-- The header of a loop over a list. -/
def listed? (line : List Char) : Option Parts := do
  let cs ← skipWord? "foreach" (line.dropWhile isBlank)
  sourceAfter? (cs.takeWhile isBlank).length cs

end Header

end JsonShell
