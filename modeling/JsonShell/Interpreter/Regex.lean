import JsonShell.Interpreter.Pattern

/-!
# Regular expressions

A regular expression matches pieces of a text.  Of the matches that start first the longest is
taken, and of the ways in which it comes about the one in which earlier parts are longer; that way
says what the groups have matched.

`ends` gives the states that a match can reach from a state.  It keeps one state for each place of
the text, so the work is bounded however repetitions are nested; only where an expression refers
back to its groups do states with different groups count as different.
-/

set_option autoImplicit false

namespace JsonShell.Interpreter

/-- A regular expression. -/
inductive Regex where
  | char (c : Char)
  | any
  | set (negated : Bool) (members : List Member)
  /-- The start of the text. -/
  | start
  /-- The end of the text. -/
  | stop
  /-- A place between two bytes of which one is part of a word: its first one, its last one, or
  either. -/
  | wordEdge (before after : Bool)
  /-- A place that is no edge of a word. -/
  | noEdge
  | group (number : Nat) (r : Regex)
  /-- The text that a group has matched. -/
  | back (number : Nat)
  | sequence (rs : List Regex)
  | alternatives (rs : List Regex)
  /-- So many times in a row. -/
  | repetition (r : Regex) (least : Nat) (most : Option Nat)

namespace Regex

/-- How a text is matched. -/
structure Options where
  ignoresCase : Bool := false
  /-- Line breaks are ends of texts. -/
  byLine : Bool := false

/-- What a group has matched: where it starts, and the text. -/
structure Capture where
  start : Nat
  text : Octets
deriving DecidableEq, Repr

/-- A place in a text that a match has come to. -/
structure State where
  offset : Nat
  /-- The byte before the place. -/
  last : Option Char
  rest : Octets
  captures : List (Nat × Capture)

/-- Letters of either case are the same if that is asked for. -/
def Options.fold (o : Options) (c : Char) : Char :=
  if o.ignoresCase then c.toLower else c

/-- A byte belongs to a set. -/
def Options.inSet (o : Options) (negated : Bool) (members : List Member) (c : Char) : Bool :=
  let isMember (c : Char) : Bool := members.any fun m => m.contains c
  let found := isMember c || (o.ignoresCase && (isMember c.toLower || isMember c.toUpper))
  found != negated

/-- The state after the next byte. -/
def State.advance (s : State) : Option State :=
  match s.rest with
  | [] => none
  | c :: rest => some { s with offset := s.offset + 1, last := some c, rest := rest }

/-- The state after a text, if it comes next. -/
def State.after (o : Options) : Octets → State → Option State
  | [], s => some s
  | c :: text, s =>
    match s.rest with
    | d :: _ => if o.fold c == o.fold d then s.advance.bind (after o text) else none
    | [] => none

/-- A byte is part of a word. -/
def isWordByte (c : Option Char) : Bool :=
  match c with
  | some c => c.isAlphanum || c == '_'
  | none => false

/-- The first of equal states, where `fine` tells groups apart. -/
def distinct (fine : Bool) : List State → List State
  | [] => []
  | s :: rest =>
    let same (t : State) : Bool := t.offset == s.offset && (!fine || t.captures == s.captures)
    s :: (distinct fine rest).filter fun t => !same t

/-- Puts a state before those that have not come further. -/
def insertLongest (s : State) : List State → List State
  | [] => [s]
  | t :: rest => if t.offset ≤ s.offset then s :: t :: rest else t :: insertLongest s rest

/-- States that have come further are better; otherwise the order stays. -/
def longestFirst (states : List State) : List State :=
  states.foldr insertLongest []

/-- The states after further repetitions of a step from the states of a frontier. -/
def further (fine : Bool) (step : State → List State) :
    Nat → Option Nat → List State → List State → List State
  | 0, _, _, seen => seen
  | _ + 1, some 0, _, seen => seen
  | fuel + 1, most, frontier, seen =>
    let isNew (t : State) : Bool :=
      !seen.any fun s => s.offset == t.offset && (!fine || s.captures == t.captures)
    let next := (distinct fine (frontier.flatMap step)).filter isNew
    if next.isEmpty then seen
    else further fine step fuel (most.map (· - 1)) next (seen ++ next)

/-- The states after so many repetitions of a step. -/
def exactly (fine : Bool) (step : State → List State) : Nat → List State → List State
  | 0, states => states
  | n + 1, states => exactly fine step n (distinct fine (states.flatMap step))

mutual

/-- The states that a match from a state can reach, the better ones first. -/
def ends (o : Options) (fine : Bool) : Regex → State → List State
  | .char c, s =>
    match s.rest with
    | d :: _ => if o.fold c == o.fold d then s.advance.toList else []
    | [] => []
  | .any, s =>
    match s.rest with
    | c :: _ => if o.byLine && c == '\n' then [] else s.advance.toList
    | [] => []
  | .set negated members, s =>
    match s.rest with
    | c :: _ => if o.inSet negated members c then s.advance.toList else []
    | [] => []
  | .start, s => if s.last.isNone || (o.byLine && s.last == some '\n') then [s] else []
  | .stop, s => if s.rest.isEmpty || (o.byLine && s.rest.head? == some '\n') then [s] else []
  | .wordEdge before after, s =>
    let old := isWordByte s.last
    let new := isWordByte s.rest.head?
    if (before && !old && new) || (after && old && !new) then [s] else []
  | .noEdge, s => if isWordByte s.last == isWordByte s.rest.head? then [s] else []
  | .group n r, s =>
    (ends o fine r s).map fun t =>
      let capture : Capture := ⟨s.offset, s.rest.take (t.offset - s.offset)⟩
      { t with captures := (n, capture) :: t.captures.filter fun c => c.1 ≠ n }
  | .back n, s =>
    match s.captures.lookup n with
    | some c => (State.after o c.text s).toList
    | none => []
  | .sequence rs, s => sequenceEnds o fine rs [s]
  | .alternatives rs, s => distinct fine (longestFirst (alternativeEnds o fine rs s))
  | .repetition r least most, s =>
    let step := ends o fine r
    let first := exactly fine step least [s]
    let fuel := s.rest.length + 1
    distinct fine
      (longestFirst (further fine step fuel (most.map (· - least)) first first))

/-- The states that a match of one expression after the other can reach. -/
def sequenceEnds (o : Options) (fine : Bool) : List Regex → List State → List State
  | [], states => states
  | r :: rs, states =>
    sequenceEnds o fine rs (distinct fine (states.flatMap fun s => ends o fine r s))

/-- The states that matches of any of the expressions can reach. -/
def alternativeEnds (o : Options) (fine : Bool) : List Regex → State → List State
  | [], _ => []
  | r :: rs, s => ends o fine r s ++ alternativeEnds o fine rs s

end

mutual

/-- The expression refers to its groups. -/
def refersBack : Regex → Bool
  | .back _ => true
  | .group _ r | .repetition r _ _ => refersBack r
  | .sequence rs | .alternatives rs => anyRefersBack rs
  | _ => false

/-- One of the expressions refers to its groups. -/
def anyRefersBack : List Regex → Bool
  | [] => false
  | r :: rs => refersBack r || anyRefersBack rs

end

mutual

/-- The number of groups. -/
def groupCount : Regex → Nat
  | .group _ r => groupCount r + 1
  | .repetition r _ _ => groupCount r
  | .sequence rs | .alternatives rs => groupCounts rs
  | _ => 0

/-- The number of groups of some expressions. -/
def groupCounts : List Regex → Nat
  | [] => 0
  | r :: rs => groupCount r + groupCounts rs

end

/-- A match: where it starts, what it is, what its groups are, and where the text goes on. -/
structure Match where
  start : Nat
  text : Octets
  captures : List (Nat × Capture)
  rest : Octets

/-- The longest match that starts at a place. -/
def matchAt? (o : Options) (r : Regex) (s : State) : Option Match :=
  ((longestFirst (ends o (refersBack r) r { s with captures := [] })).head?).map fun t =>
    ⟨s.offset, s.rest.take (t.offset - s.offset), t.captures, t.rest⟩

/-- The first match from a place on. -/
def search? (o : Options) (r : Regex) : Nat → State → Option Match
  | 0, _ => none
  | fuel + 1, s =>
    match matchAt? o r s with
    | some m => some m
    | none => s.advance.bind (search? o r fuel)

/-- The start of a text. -/
def State.atStart (text : Octets) : State :=
  ⟨0, none, text, []⟩

/-- The first match in a text. -/
def find? (o : Options) (r : Regex) (text : Octets) : Option Match :=
  search? o r (text.length + 1) (.atStart text)

/-- The text that a group has matched; group 0 is the whole match. -/
def Match.group (m : Match) (number : Nat) : Octets :=
  if number = 0 then m.text
  else
    match m.captures.lookup number with
    | some c => c.text
    | none => []

/-- The matches of a text from left to right, which do not overlap; an empty match does not touch
the one before it.  `last` is where the last match ended. -/
def allFrom (o : Options) (r : Regex) : Nat → Option Nat → State → List Match
  | 0, _, _ => []
  | fuel + 1, last, s =>
    match search? o r (s.rest.length + 1) s with
    | none => []
    | some m =>
      let stop := m.start + m.text.length
      let before := if m.text.isEmpty then lastBefore s m else m.text.getLast?
      let next : State := ⟨stop, before, m.rest, []⟩
      if m.text.isEmpty then
        let later := (next.advance.map (allFrom o r fuel last)).getD []
        if last == some m.start then later else m :: later
      else m :: allFrom o r fuel (some stop) next
where
  /-- The byte before an empty match. -/
  lastBefore (s : State) (m : Match) : Option Char :=
    if m.start = s.offset then s.last else s.rest[m.start - s.offset - 1]?

/-- All matches in a text. -/
def all (o : Options) (r : Regex) (text : Octets) : List Match :=
  allFrom o r (text.length + 2) none (.atStart text)

end Regex

end JsonShell.Interpreter
