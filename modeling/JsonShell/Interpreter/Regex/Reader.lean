import JsonShell.Interpreter.Integer
import JsonShell.Interpreter.Regex

/-!
# Reading regular expressions

There are two ways to write them.  In *extended* ones parentheses, braces, bars, plus signs and
question marks are operators and a backslash keeps them; in *basic* ones it is the other way round,
and a star, a caret or a dollar sign is an operator only where it can be one.
-/

set_option autoImplicit false

namespace JsonShell.Interpreter.Regex

/-- A piece of a written expression. -/
inductive Token where
  /-- An expression for itself. -/
  | atom (r : Regex)
  | repetition (least : Nat) (most : Option Nat)
  | opening
  | closing
  | bar

/-- The texts under which unreadable expressions are reported. -/
inductive Fault where
  | openGroup
  | closedGroup
  | openSet
  | openBounds
  | wrongBounds
  | wrongClass
  | wrongRange
  | nothingToRepeat
  | wrongReference
  | finalBackslash
deriving DecidableEq, Repr

/-- What is told about a fault. -/
def Fault.message : Fault → String
  | .openGroup => "Unmatched ( or \\("
  | .closedGroup => "Unmatched ) or \\)"
  | .openSet => "Unmatched [, [^, [:, [., or [="
  | .openBounds => "Unmatched \\\x7b"
  | .wrongBounds => "Invalid content of \\\x7b\\\x7d"
  | .wrongClass => "Invalid character class name"
  | .wrongRange => "Invalid range end"
  | .nothingToRepeat => "Invalid preceding regular expression"
  | .wrongReference => "Invalid back reference"
  | .finalBackslash => "Trailing backslash"

/-! ## Sets -/

/-- The text up to a mark and a closing bracket, and what follows. -/
def upTo (mark : Char) : Octets → Option (Octets × Octets)
  | [] => none
  | c :: rest =>
    if c == mark && rest.head? == some ']' then some ([], rest.drop 1)
    else (upTo mark rest).map fun (text, after) => (c :: text, after)

/-- A single byte of a set, as it is or between brackets, and what follows. -/
def setByte (text : Octets) : Except Fault (Char × Octets) :=
  match text with
  | '[' :: mark :: rest =>
    if mark == '.' || mark == '=' then
      match upTo mark rest with
      | some ([c], after) => .ok (c, after)
      | _ => .error .openSet
    else .ok ('[', mark :: rest)
  | c :: rest => .ok (c, rest)
  | [] => .error .openSet

/-- The member that starts with a byte, which may be the low end of a range, and what follows. -/
def range (low : Char) (rest : Octets) : Except Fault (Member × Octets) :=
  match rest with
  | '-' :: ']' :: _ => .ok (.range low low, rest)
  | '-' :: rest => do
    let (high, rest) ← setByte rest
    if high < low then .error .wrongRange else .ok (.range low high, rest)
  | rest => .ok (.range low low, rest)

/-- The first member of a set and what follows. -/
def member (text : Octets) : Except Fault (Member × Octets) :=
  match text with
  | '[' :: ':' :: rest =>
    match upTo ':' rest with
    | none => .error .openSet
    | some (name, after) =>
      let name := String.ofList name
      if classNames.contains name then .ok (.ofClass name, after) else .error .wrongClass
  | text => do
    let (c, rest) ← setByte text
    range c rest

/-- The members of a set up to its closing bracket, and what follows that; a bracket that comes
`first` is a member. -/
def members (first : Bool) : Nat → Octets → Except Fault (List Member × Octets)
  | 0, _ => .error .openSet
  | fuel + 1, text =>
    if !first && text.head? == some ']' then .ok ([], text.drop 1)
    else do
      let (m, rest) ← member text
      let (ms, after) ← members false fuel rest
      return (m :: ms, after)

/-- The set after an opening bracket, and what follows. -/
def setOf (text : Octets) : Except Fault (Regex × Octets) := do
  let (negated, rest) : Bool × Octets := match text with
    | '^' :: rest => (true, rest)
    | rest => (false, rest)
  let (ms, after) ← members true (rest.length + 1) rest
  return (.set negated ms, after)

/-! ## Tokens -/

/-- The bounds of a repetition after an opening brace, and what follows the closing one, which has a
backslash in front of it in a basic expression. -/
def boundsOf (extended : Bool) (text : Octets) : Except Fault (Token × Octets) :=
  let low := text.takeWhile Char.isDigit
  let afterLow := text.drop low.length
  let (hasComma, afterComma) : Bool × Octets := match afterLow with
    | ',' :: rest => (true, rest)
    | rest => (false, rest)
  let high := if hasComma then afterComma.takeWhile Char.isDigit else []
  let rest := afterComma.drop high.length
  let closed : Option Octets := match extended, rest with
    | true, '}' :: rest => some rest
    | false, '\\' :: '}' :: rest => some rest
    | _, _ => none
  match closed with
  | none => .error (if rest.isEmpty then .openBounds else .wrongBounds)
  | some rest =>
    if low.isEmpty && !hasComma then .error .wrongBounds
    else
      let least := digitsValue 10 low
      let most := if !hasComma then some least
        else if high.isEmpty then none else some (digitsValue 10 high)
      match most with
      | some m =>
        if m < least || 32767 < m then .error .wrongBounds
        else .ok (.repetition least most, rest)
      | none => .ok (.repetition least none, rest)

/-- The byte belongs to words. -/
def wordMembers : List Member :=
  [.ofClass "alnum", .range '_' '_']

/-- The token that a backslash and a byte write in both kinds of expressions. -/
def commonEscape (c : Char) : Token :=
  match c with
  | 'w' => .atom (.set false wordMembers)
  | 'W' => .atom (.set true wordMembers)
  | 's' => .atom (.set false [.ofClass "space"])
  | 'S' => .atom (.set true [.ofClass "space"])
  | '<' => .atom (.wordEdge true false)
  | '>' => .atom (.wordEdge false true)
  | 'b' => .atom (.wordEdge true true)
  | 'B' => .atom .noEdge
  | '`' => .atom .start
  | '\x27' => .atom .stop
  | c => if c.isDigit && c != '0' then .atom (.back (c.toNat - 48)) else .atom (.char c)

/-- A repetition can stand after these tokens, which are in reverse. -/
def canRepeat (extended : Bool) : List Token → Bool
  | [] | .opening :: _ | .bar :: _ => false
  | .atom .start :: _ => extended
  | _ => true

/-- An expression starts after these tokens, which are in reverse. -/
def isStart : List Token → Bool
  | [] | .opening :: _ | .bar :: _ => true
  | _ => false

/-- An expression ends before this text. -/
def isEnd (text : Octets) : Bool :=
  match text with
  | [] => true
  | '\\' :: c :: _ => c == ')' || c == '|'
  | _ => false

/-- The token at the start of a text, and what follows; `before` are the tokens before it, in
reverse. -/
def token (extended : Bool) (before : List Token) (c : Char) (rest : Octets) :
    Except Fault (Token × Octets) :=
  let operator (t : Token) : Except Fault (Token × Octets) :=
    if canRepeat extended before then .ok (t, rest) else .ok (.atom (.char c), rest)
  match c with
  | '[' => do
    let (r, rest) ← setOf rest
    return (.atom r, rest)
  | '.' => .ok (.atom .any, rest)
  | '*' => operator (.repetition 0 none)
  | '^' => .ok (.atom (if extended || isStart before then .start else .char '^'), rest)
  | '$' => .ok (.atom (if extended || isEnd rest then .stop else .char '$'), rest)
  | '+' => if extended then operator (.repetition 1 none) else .ok (.atom (.char c), rest)
  | '?' => if extended then operator (.repetition 0 (some 1)) else .ok (.atom (.char c), rest)
  | '(' => .ok (if extended then .opening else .atom (.char c), rest)
  | ')' => .ok (if extended then .closing else .atom (.char c), rest)
  | '|' => .ok (if extended then .bar else .atom (.char c), rest)
  | '{' =>
    if extended && canRepeat extended before then
      match boundsOf true rest with
      | .ok found => .ok found
      | .error .wrongBounds => .ok (.atom (.char c), rest)
      | .error fault => .error fault
    else .ok (.atom (.char c), rest)
  | '\\' =>
    match rest with
    | [] => .error .finalBackslash
    | d :: rest =>
      if extended then .ok (commonEscape d, rest)
      else
        match d with
        | '(' => .ok (.opening, rest)
        | ')' => .ok (.closing, rest)
        | '|' => .ok (.bar, rest)
        | '+' => .ok (if canRepeat false before then .repetition 1 none else .atom (.char d), rest)
        | '?' =>
          .ok (if canRepeat false before then .repetition 0 (some 1) else .atom (.char d), rest)
        | '{' => if canRepeat false before then boundsOf false rest else .error .nothingToRepeat
        | d => .ok (commonEscape d, rest)
  | c => .ok (.atom (.char c), rest)

/-- The tokens of a text; `before` are those before it, in reverse. -/
def tokens (extended : Bool) : Nat → List Token → Octets → Except Fault (List Token)
  | 0, before, _ => .ok before.reverse
  | fuel + 1, before, text =>
    match text with
    | [] => .ok before.reverse
    | c :: rest => do
      let (t, rest) ← token extended before c rest
      tokens extended fuel (t :: before) rest

/-! ## Expressions -/

/-- What is being read: the alternatives of a group, those of its last sequence in reverse. -/
structure Level where
  /-- The number of the group. -/
  number : Nat
  alternatives : List Regex
  sequence : List Regex

/-- The expression of a level. -/
def Level.regex (l : Level) : Regex :=
  match l.alternatives with
  | [] => .sequence l.sequence.reverse
  | others => .alternatives (others ++ [.sequence l.sequence.reverse])

/-- Puts an expression at the end of a level. -/
def Level.push (l : Level) (r : Regex) : Level :=
  { l with sequence := r :: l.sequence }

/-- Reads tokens inside of groups that are open, the innermost first; `groups` is the number of
groups so far, and `closed` are those that have ended. -/
def assemble (groups : Nat) (closed : List Nat) : Level → List Level → List Token →
    Except Fault Regex
  | level, [], [] => .ok level.regex
  | _, _ :: _, [] => .error .openGroup
  | level, outer, .atom (.back n) :: rest =>
    if closed.contains n then assemble groups closed (level.push (.back n)) outer rest
    else .error .wrongReference
  | level, outer, .atom r :: rest => assemble groups closed (level.push r) outer rest
  | level, outer, .repetition least most :: rest =>
    match level.sequence with
    | [] => .error .nothingToRepeat
    | r :: before =>
      let level := { level with sequence := .repetition r least most :: before }
      assemble groups closed level outer rest
  | level, outer, .opening :: rest =>
    assemble (groups + 1) closed ⟨groups + 1, [], []⟩ (level :: outer) rest
  | level, outer, .closing :: rest =>
    match outer with
    | [] => .error .closedGroup
    | parent :: outer =>
      assemble groups (level.number :: closed) (parent.push (.group level.number level.regex)) outer
        rest
  | level, outer, .bar :: rest =>
    assemble groups closed
      { level with
        alternatives := level.alternatives ++ [.sequence level.sequence.reverse]
        sequence := [] }
      outer rest

/-- Reads an expression. -/
def read (extended : Bool) (text : Octets) : Except Fault Regex := do
  let ts ← tokens extended (text.length + 1) [] text
  assemble 0 [] ⟨0, [], []⟩ [] ts

/-- The piece of a text that an expression matches first. -/
def firstMatch? (extended : Bool) (expression text : String) : Option String :=
  match read extended expression.toList with
  | .ok r => (r.find? {} text.toList).map fun m => String.ofList m.text
  | .error _ => none

example : firstMatch? false "b*c\\(a\\|ab\\)" "abbcab" = some "bbcab" := by decide +kernel
example : firstMatch? true "(a*)*b|x+" "yxxaab" = some "xx" := by decide +kernel
example : firstMatch? true "^[^a-c]\x7b2,3\x7d$" "xyz" = some "xyz" := by decide +kernel
example : firstMatch? false "\\(a*\\)b\\1" "aabab" = some "aba" := by decide +kernel

end JsonShell.Interpreter.Regex
