import JsonShell.Interpreter.Integer

/-!
# Conditions

A condition is a list of words that is true or false: comparisons of texts and integers, questions
about files, and these put together by `!`, `-a`, `-o` and parentheses.  With few words their number
decides what they mean, so that any text may be asked about.

The reader keeps the rest of the words from the one that it has come to; what follows that one tells
whether it is an operator or an operand.
-/

set_option autoImplicit false

namespace JsonShell.Interpreter.Condition

/-- What an operator stands between or in front of. -/
inductive OperatorKind where
  | unary
  | binary
  | negation
  | conjunction
  | disjunction
  | opening
  | closing
deriving DecidableEq, Repr

/-- The questions about one text. -/
def unaryOperators : List String :=
  ["-r", "-w", "-x", "-e", "-f", "-d", "-c", "-b", "-p", "-u", "-g", "-k", "-s", "-t", "-z", "-n",
    "-h", "-L", "-G", "-O", "-S"]

/-- The comparisons of two texts. -/
def binaryOperators : List String :=
  ["=", "!=", "<", ">", "-eq", "-ne", "-ge", "-gt", "-le", "-lt", "-nt", "-ot", "-ef"]

/-- The operator that a word is. -/
def operator? (w : Octets) : Option OperatorKind :=
  let s := Octets.key w
  if unaryOperators.contains s then some .unary
  else if binaryOperators.contains s then some .binary
  else
    match s with
    | "!" => some .negation
    | "-a" => some .conjunction
    | "-o" => some .disjunction
    | "(" => some .opening
    | ")" => some .closing
    | _ => none

/-- What the first of some words is. -/
inductive Role where
  | missing
  | operand
  | operator (kind : OperatorKind)
deriving DecidableEq, Repr

/-- The word after a unary operator makes an operand of it if nothing or a comparison follows. -/
def isOperand (after : List Octets) : Bool :=
  match after with
  | [] => true
  | [_] => false
  | w :: _ => operator? w == some .binary

/-- What the first of some words is. -/
def roleOf (words : List Octets) : Role :=
  match words with
  | [] => .missing
  | w :: after =>
    match operator? w with
    | none => .operand
    | some .unary => if isOperand after then .operand else .operator .unary
    | some .opening => if after.isEmpty then .operand else .operator .opening
    | some kind => .operator kind

/-- Answers to questions about files, of one path and of two. -/
structure Probe where
  one : String → Octets → Bool
  two : String → Octets → Octets → Bool

/-- The integer that a word is. -/
def integerOf (w : Octets) : Except Octets Int :=
  match integer? w with
  | some n => .ok n
  | none => .error ("Illegal number: ".toList ++ w)

/-- A comparison of two texts. -/
def compare (probe : Probe) (op : String) (a b : Octets) : Except Octets Bool :=
  let integers (test : Int → Int → Bool) : Except Octets Bool := do
    return test (← integerOf a) (← integerOf b)
  match op with
  | "=" => .ok (a == b)
  | "!=" => .ok (a != b)
  | "<" => .ok (Octets.before a b)
  | ">" => .ok (Octets.before b a)
  | "-eq" => integers (· == ·)
  | "-ne" => integers (· != ·)
  | "-ge" => integers (· ≥ ·)
  | "-gt" => integers (· > ·)
  | "-le" => integers (· ≤ ·)
  | "-lt" => integers (· < ·)
  | _ => .ok (probe.two op a b)

/-- A question about one text. -/
def ask (probe : Probe) (op : String) (a : Octets) : Except Octets Bool :=
  match op with
  | "-z" => .ok a.isEmpty
  | "-n" => .ok (!a.isEmpty)
  | "-t" => (integerOf a).map fun _ => false
  | _ => .ok (probe.one op a)

/-- What a condition comes to, and the words from the last one that it took on. -/
abbrev Found := Except Octets (Bool × List Octets)

/-- What is said about a word that does not fit. -/
def complaint (w : Octets) (text : String) : Octets :=
  if w.isEmpty then text.toList else w ++ ": ".toList ++ text.toList

/-- A comparison, or a word that is true if it is not empty. -/
def operandOf (probe : Probe) (words : List Octets) : Found :=
  match roleOf (words.drop 1), words with
  | .operator .binary, [_, op] => .error (complaint op "argument expected")
  | .operator .binary, a :: op :: b :: rest =>
    (compare probe (Octets.key op) a b).map fun r => (r, b :: rest)
  | _, w :: rest => .ok (!w.isEmpty, w :: rest)
  | _, [] => .ok (false, [])

/-- How much of a condition is read: alternatives, a chain that has to hold, a term that may be
denied, or a single term. -/
inductive Extent where
  | alternatives
  | chain
  | term
  | primary
deriving DecidableEq, Repr

/-- Reads a condition. -/
def read (probe : Probe) : Nat → Extent → List Octets → Found
  | 0, _, words => .ok (false, words)
  | fuel + 1, .alternatives, words => do
    let (a, last) ← read probe fuel .chain words
    if roleOf (last.drop 1) = .operator .disjunction then
      let (b, last) ← read probe fuel .alternatives (last.drop 2)
      return (a || b, last)
    else return (a, last)
  | fuel + 1, .chain, words => do
    let (a, last) ← read probe fuel .term words
    if roleOf (last.drop 1) = .operator .conjunction then
      let (b, last) ← read probe fuel .chain (last.drop 2)
      return (a && b, last)
    else return (a, last)
  | fuel + 1, .term, words => do
    if roleOf words = .operator .negation then
      if words.length ≤ 1 then return (true, words)
      else
        let (a, last) ← read probe fuel .term (words.drop 1)
        return (!a, last)
    else read probe fuel .primary words
  | fuel + 1, .primary, words => do
    match roleOf words, words with
    | .operator .opening, _ :: inner =>
      if roleOf inner = .operator .closing then return (false, inner)
      else
        let (a, last) ← read probe fuel .alternatives inner
        if roleOf (last.drop 1) = .operator .closing then return (a, last.drop 1)
        else throw "closing paren expected".toList
    | .operator .unary, op :: a :: rest => do
      let r ← ask probe (Octets.key op) a
      return (r, a :: rest)
    | .missing, _ => return (false, words)
    | _, _ => operandOf probe words

/-- A whole condition, of which nothing may be left. -/
def readWhole (probe : Probe) (words : List Octets) (start : Extent) : Except Octets Bool := do
  let (r, last) ← read probe (4 * words.length + 8) start words
  match last with
  | w :: _ :: _ => throw (complaint w "unexpected operator")
  | _ => return r

/-- A condition of three words whose middle is a comparison, or one that is read as a whole. -/
def holds (probe : Probe) : List Octets → Except Octets Bool
  | [] => .ok false
  | [a, op, b] =>
    if operator? op = some .binary then compare probe (Octets.key op) a b
    else if a = ['('] ∧ b = [')'] then readWhole probe [op] .alternatives
    else if a = ['!'] then do return !(← holds probe [op, b])
    else readWhole probe [a, op, b] .alternatives
  | [a, b, c, d] =>
    if a = ['('] ∧ d = [')'] then readWhole probe [b, c] .alternatives
    else if a = ['!'] then do return !(← holds probe [b, c, d])
    else readWhole probe [a, b, c, d] .alternatives
  | words => readWhole probe words .alternatives

/-- Answers without files. -/
def noFiles : Probe := ⟨fun _ _ => false, fun _ _ _ => false⟩

/-- A condition about texts and integers. -/
def textsHold (words : List String) : Option Bool :=
  (holds noFiles (words.map String.toList)).toOption

example : textsHold ["-n", "=", "-n"] = some true ∧ textsHold ["!", ""] = some true := by
  decide +kernel
example : textsHold ["(", "a", "-o", "b", ")", "-a", ""] = some false := by decide +kernel
example : textsHold ["1", "-lt", "x"] = none ∧ textsHold ["a", "b"] = none := by decide +kernel

end JsonShell.Interpreter.Condition
