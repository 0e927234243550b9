import JsonShell.Interpreter.Regex.Reader
import JsonShell.Interpreter.Utility.Basic

/-!
# Calculating

`expr` works out an expression whose operators and operands are its arguments.  Values are texts; a
text that is a number can be calculated with.  The expression is read and worked out at once, by
levels of operators from the weakest to the strongest.
-/

set_option autoImplicit false

namespace JsonShell.Interpreter.Utility.Calculate

/-- What an expression comes to, with the arguments after it, or what is wrong. -/
abbrev Result := Except Octets (Octets × List Octets)

/-- The integer that a text is. -/
def integer? (text : Octets) : Option Int :=
  match text with
  | '-' :: digits => (natural? digits).map fun n => -(n : Int)
  | digits => (natural? digits).map Int.ofNat

/-- A text that stands for nothing: it is empty or zero. -/
def isNull (text : Octets) : Bool :=
  let digits := if text.head? == some '-' then text.drop 1 else text
  text.isEmpty || (!digits.isEmpty && digits.all (· == '0'))

/-- The value of a condition. -/
def ofBool (b : Bool) : Octets :=
  if b then ['1'] else ['0']

/-- Puts two integers together. -/
def arithmetic (op : String) (a b : Octets) : Except Octets Octets :=
  match integer? a, integer? b with
  | some x, some y =>
    match op with
    | "+" => .ok (Octets.integer (x + y))
    | "-" => .ok (Octets.integer (x - y))
    | "*" => .ok (Octets.integer (x * y))
    | op =>
      if y = 0 then .error "division by zero".toList
      else .ok (Octets.integer (if op = "/" then Int.tdiv x y else Int.tmod x y))
  | _, _ => .error "non-integer argument".toList

/-- Compares two values, as integers if both are. -/
def comparison (op : String) (a b : Octets) : Octets :=
  let (less, same) : Bool × Bool := match integer? a, integer? b with
    | some x, some y => (x < y, x == y)
    | _, _ => (Octets.before a b, a == b)
  ofBool (match op with
    | "<" => less
    | "<=" => less || same
    | ">" => !less && !same
    | ">=" => !less
    | "!=" => !same
    | _ => same)

/-- What the start of a text matches: the text of the first group, or the length of the match. -/
def matching (text expression : Octets) : Except Octets Octets :=
  match Regex.read false expression with
  | .error fault => .error fault.message.toList
  | .ok r =>
    match Regex.matchAt? {} r (.atStart text) with
    | some m => .ok (if r.groupCount = 0 then Octets.natural m.text.length else m.group 1)
    | none => .ok (if r.groupCount = 0 then ['0'] else [])

/-- A part of a text, with places counted from one. -/
def part (text start length : Octets) : Octets :=
  match integer? start, integer? length with
  | some s, some l =>
    if s < 1 || l < 1 then [] else (text.drop (s.toNat - 1)).take l.toNat
  | _, _ => []

/-- The place of the first byte of a text that is one of a set. -/
def place (text set : Octets) : Octets :=
  match text.findIdx? set.contains with
  | some n => Octets.natural (n + 1)
  | none => ['0']

/-- The operators of a level. -/
def operators : Nat → List String
  | 0 => ["|"]
  | 1 => ["&"]
  | 2 => ["<", "<=", "=", "==", "!=", ">=", ">"]
  | 3 => ["+", "-"]
  | 4 => ["*", "/", "%"]
  | _ => [":"]

/-- The number of levels of operators. -/
def levels : Nat := 6

/-- What an operator of a level makes of two values. -/
def combine (op : String) (a b : Octets) : Except Octets Octets :=
  match op with
  | "|" => .ok (if !isNull a then a else if isNull b then ['0'] else b)
  | "&" => .ok (if isNull a || isNull b then ['0'] else a)
  | ":" => matching a b
  | "+" | "-" | "*" | "/" | "%" => arithmetic op a b
  | op => .ok (comparison op a b)

/-- A missing argument. -/
def missing (before : Octets) : Octets :=
  "syntax error: missing argument after ".toList ++ Utility.quoted before

/-- The next argument. -/
def next (before : Octets) : List Octets → Result
  | [] => .error (missing before)
  | a :: rest => .ok (a, rest)

/-- Works out an expression of a level; `before` is the argument before it. -/
def evaluate : Nat → Nat → Octets → List Octets → Result
  | 0, _, before, _ => .error (missing before)
  | fuel + 1, level, before, args =>
    if level < levels then do
      let (a, rest) ← evaluate fuel (level + 1) before args
      continued fuel level a rest
    else
      match args with
      | [] => .error (missing before)
      | ['('] :: rest => do
        let (a, rest) ← evaluate fuel 0 ['('] rest
        match rest with
        | [')'] :: rest => .ok (a, rest)
        | [] => .error ("syntax error: expecting ')' after ".toList ++
            Utility.quoted ((args.getLast?).getD []))
        | found :: _ =>
          .error ("syntax error: expecting ')' instead of ".toList ++ Utility.quoted found)
      | name :: rest =>
        match Octets.key name, rest with
        | ")", _ => .error "syntax error: unexpected ')'".toList
        | "+", _ => next name rest
        | "length", _ => do
          let (a, rest) ← evaluate fuel levels name rest
          return (Octets.natural a.length, rest)
        | "match", _ => do
          let (a, rest) ← evaluate fuel levels name rest
          let (b, rest) ← evaluate fuel levels a rest
          return (← matching a b, rest)
        | "index", _ => do
          let (a, rest) ← evaluate fuel levels name rest
          let (b, rest) ← evaluate fuel levels a rest
          return (place a b, rest)
        | "substr", _ => do
          let (a, rest) ← evaluate fuel levels name rest
          let (b, rest) ← evaluate fuel levels a rest
          let (c, rest) ← evaluate fuel levels b rest
          return (part a b c, rest)
        | _, _ => .ok (name, rest)
where
  /-- Goes on after a value as long as operators of the level follow. -/
  continued : Nat → Nat → Octets → List Octets → Result
    | 0, _, a, rest => .ok (a, rest)
    | fuel + 1, level, a, rest =>
      match rest with
      | op :: after =>
        if (operators level).contains (Octets.key op) then do
          let (b, rest) ← evaluate fuel (level + 1) op after
          continued fuel level (← combine (Octets.key op) a b) rest
        else .ok (a, rest)
      | [] => .ok (a, [])

/-- Works out a whole expression. -/
def whole (args : List Octets) : Except Octets Octets := do
  let (value, rest) ← evaluate ((args.length + 2) * (levels + 2)) 0 [] args
  match rest with
  | [] => return value
  | extra :: _ =>
    .error ("syntax error: unexpected argument ".toList ++ Utility.quoted extra)

example : (whole [['2'], ['+'], ['3'], ['*'], ['4']]).toOption = some "14".toList := by
  decide +kernel
example : (whole ["a.b".toList, [':'], "\\(.*\\)\\.".toList]).toOption = some ['a'] := by
  decide +kernel

end Calculate

open Shell

/-- `expr`. -/
def expr : Utility := fun _ args => do
  let args := if args.head? == some ['-', '-'] then args.drop 1 else args
  if args.isEmpty then misuse "expr" "missing operand".toList 2
  else
    match Calculate.whole args with
    | .error message =>
      say "expr" message
      return 2
    | .ok value =>
      write 1 (value ++ ['\n'])
      return if Calculate.isNull value then 1 else 0

end JsonShell.Interpreter.Utility
