import JsonShell.Interpreter.Octets

/-!
# Patterns

A pattern is a text in which a star stands for any text, a question mark for any byte and brackets
for one of a set of bytes, unless a quote or a backslash keeps them.  Patterns choose among cases,
cut pieces off values and stand for the files that they match.
-/

set_option autoImplicit false

namespace JsonShell.Interpreter

/-- A character of a word after expansion; one that is `active` is not kept by a quote. -/
structure Glyph where
  char : Char
  active : Bool
deriving DecidableEq, Repr

/-- The text of glyphs. -/
def Glyph.text (glyphs : List Glyph) : Octets :=
  glyphs.map Glyph.char

/-- The glyphs of a text that is kept by quotes, or is not. -/
def Glyph.ofText (active : Bool) (text : Octets) : List Glyph :=
  text.map fun c => ⟨c, active⟩

/-- The classes of bytes that have names. -/
def inClass (name : String) (c : Char) : Bool :=
  let n := c.toNat
  let isGraph := 33 ≤ n && n ≤ 126
  match name with
  | "alnum" => c.isAlphanum
  | "alpha" => c.isAlpha
  | "blank" => Octets.isBlank c
  | "cntrl" => n < 32 || n == 127
  | "digit" => c.isDigit
  | "graph" => isGraph
  | "lower" => c.isLower
  | "print" => n == 32 || isGraph
  | "punct" => isGraph && !c.isAlphanum
  | "space" => Octets.isSpace c
  | "upper" => c.isUpper
  | "xdigit" => c.isDigit || ('a' ≤ c && c ≤ 'f') || ('A' ≤ c && c ≤ 'F')
  | _ => false

/-- The names of classes. -/
def classNames : List String :=
  ["alnum", "alpha", "blank", "cntrl", "digit", "graph", "lower", "print", "punct", "space",
    "upper", "xdigit"]

/-- A member of a set in brackets. -/
inductive Member where
  | range (low high : Char)
  | ofClass (name : String)
deriving DecidableEq, Repr

/-- A byte belongs to a member of a set. -/
def Member.contains (c : Char) : Member → Bool
  | .range low high => low ≤ c && c ≤ high
  | .ofClass name => inClass name c

/-- What a pattern is made of. -/
inductive Wildcard where
  | char (c : Char)
  | any
  | star
  | set (negated : Bool) (members : List Member)
deriving DecidableEq, Repr

/-- A pattern. -/
abbrev Pattern := List Wildcard

namespace Pattern

/-- The name of a class at the start of a text, as it stands after an opening bracket, and what
follows it. -/
def className? (glyphs : List Glyph) : Option (String × List Glyph) :=
  match glyphs with
  | ⟨':', true⟩ :: rest =>
    let name := rest.takeWhile fun g => g.char.isLower
    match rest.drop name.length with
    | ⟨':', true⟩ :: ⟨']', true⟩ :: after =>
      let name := String.ofList (Glyph.text name)
      if classNames.contains name then some (name, after) else none
    | _ => none
  | _ => none

/-- A backslash keeps the glyph after it. -/
def unescape : List Glyph → Option (Char × List Glyph)
  | ⟨'\\', true⟩ :: g :: rest => some (g.char, rest)
  | g :: rest => some (g.char, rest)
  | [] => none

/-- The member that starts with a character, which may be the low end of a range. -/
def range (low : Char) (rest : List Glyph) : Member × List Glyph :=
  match rest with
  | ⟨'-', true⟩ :: ⟨']', true⟩ :: _ => (.range low low, rest)
  | ⟨'-', true⟩ :: more =>
    match unescape more with
    | some (high, rest) => (.range low high, rest)
    | none => (.range low low, rest)
  | _ => (.range low low, rest)

/-- The first member of a set and what follows it. -/
def member? (glyphs : List Glyph) : Option (Member × List Glyph) :=
  let named : Option (String × List Glyph) := match glyphs with
    | ⟨'[', true⟩ :: rest => className? rest
    | _ => none
  match named with
  | some (name, rest) => some (.ofClass name, rest)
  | none => (unescape glyphs).map fun (c, rest) => range c rest

/-- The members of a set up to its closing bracket, and what follows that; `first` tells that a
closing bracket would be a member.  There is no set without a closing bracket. -/
def members? : Nat → Bool → List Glyph → Option (List Member × List Glyph)
  | 0, _, _ => none
  | fuel + 1, first, glyphs =>
    if !first && glyphs.head? == some ⟨']', true⟩ then some ([], glyphs.drop 1)
    else
      match member? glyphs with
      | some (m, rest) => (members? fuel false rest).map fun (ms, rest) => (m :: ms, rest)
      | none => none

/-- The set after an opening bracket, and what follows it. -/
def set? (glyphs : List Glyph) : Option (Wildcard × List Glyph) :=
  let (negated, rest) : Bool × List Glyph := match glyphs with
    | ⟨'!', true⟩ :: rest => (true, rest)
    | _ => (false, glyphs)
  (members? (rest.length + 1) true rest).map fun (ms, rest) => (.set negated ms, rest)

/-- The pattern that glyphs write. -/
def ofGlyphsWithin : Nat → List Glyph → Pattern
  | 0, _ => []
  | fuel + 1, glyphs =>
    match glyphs with
    | [] => []
    | ⟨c, false⟩ :: rest => .char c :: ofGlyphsWithin fuel rest
    | ⟨'*', true⟩ :: rest => .star :: ofGlyphsWithin fuel rest
    | ⟨'?', true⟩ :: rest => .any :: ofGlyphsWithin fuel rest
    | ⟨'[', true⟩ :: rest =>
      match set? rest with
      | some (w, rest) => w :: ofGlyphsWithin fuel rest
      | none => .char '[' :: ofGlyphsWithin fuel rest
    | ⟨'\\', true⟩ :: g :: rest => .char g.char :: ofGlyphsWithin fuel rest
    | ⟨c, true⟩ :: rest => .char c :: ofGlyphsWithin fuel rest

/-- The pattern that glyphs write. -/
def ofGlyphs (glyphs : List Glyph) : Pattern :=
  ofGlyphsWithin glyphs.length glyphs

/-- The ends of a text, from the whole of it to nothing. -/
def ends : Octets → List Octets
  | [] => [[]]
  | c :: rest => (c :: rest) :: ends rest

/-- The pattern matches the whole text. -/
def isMatch : Pattern → Octets → Bool
  | [], text => text.isEmpty
  | .star :: rest, text => (ends text).any (isMatch rest)
  | .char c :: rest, text =>
    match text with
    | d :: text => c == d && isMatch rest text
    | [] => false
  | .any :: rest, text =>
    match text with
    | _ :: text => isMatch rest text
    | [] => false
  | .set negated members :: rest, text =>
    match text with
    | c :: text => (members.any (·.contains c) != negated) && isMatch rest text
    | [] => false

/-- The pattern can match more than one text. -/
def isOpen (p : Pattern) : Bool :=
  p.any fun w => match w with
    | .char _ => false
    | _ => true

/-- Takes the shortest or the longest start that matches off a text. -/
def trimStart (p : Pattern) (longest : Bool) (text : Octets) : Octets :=
  let lengths := List.range (text.length + 1)
  match (if longest then lengths.reverse else lengths).find? fun n => p.isMatch (text.take n) with
  | some n => text.drop n
  | none => text

/-- Takes the shortest or the longest end that matches off a text. -/
def trimEnd (p : Pattern) (longest : Bool) (text : Octets) : Octets :=
  let lengths := List.range (text.length + 1)
  match (if longest then lengths else lengths.reverse).find? fun n => p.isMatch (text.drop n) with
  | some n => text.take n
  | none => text

/-- A pattern without wildcards matches its own text and nothing else. -/
theorem isMatch_map_char (text other : Octets) :
    isMatch (text.map .char) other = decide (text = other) := by
  induction text generalizing other with
  | nil => cases other <;> simp [isMatch]
  | cons c rest ih =>
    cases other with
    | nil => simp [isMatch]
    | cons d other =>
      simp only [List.map_cons, isMatch, ih, List.cons.injEq, Bool.decide_and]
      rfl

example : isMatch (ofGlyphs (Glyph.ofText true "*.[ch]".toList)) "a.c".toList = true := by
  decide +kernel
example : isMatch (ofGlyphs (Glyph.ofText true "[!a-c]?".toList)) "bx".toList = false := by
  decide +kernel
example : trimStart (ofGlyphs (Glyph.ofText true "*/".toList)) true "a/b/c".toList = ['c'] := by
  decide +kernel

end Pattern

end JsonShell.Interpreter
