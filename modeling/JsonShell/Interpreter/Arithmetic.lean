import JsonShell.Interpreter.Integer
import JsonShell.Variable.Reference

/-!
# Arithmetic of scripts

An expression is made of integers and variables by the operators of the language C, of which there
are all but those that count up or down and the comma.  Operands are worked out from left to right,
and only as far as they are needed: `&&`, `||` and `?:` leave out what does not count.  What a
variable is and how one is assigned is for the caller to say.
-/

set_option autoImplicit false

namespace JsonShell.Interpreter

/-- The operators between two integers. -/
inductive BinaryOperator where
  | multiply | divide | remainder | add | subtract | shiftLeft | shiftRight
  | less | lessEqual | greater | greaterEqual | equal | notEqual
  | bitAnd | bitXor | bitOr
deriving DecidableEq, Repr

/-- The operators in front of an integer. -/
inductive UnaryOperator where
  | negate | plus | complement | not
deriving DecidableEq, Repr

/-- An arithmetic expression. -/
inductive Expression where
  | number (n : Int)
  | variableOf (name : String)
  | unary (op : UnaryOperator) (e : Expression)
  | binary (op : BinaryOperator) (a b : Expression)
  | both (a b : Expression)
  | either (a b : Expression)
  | choice (test a b : Expression)
  /-- Gives a variable a value, perhaps made from its old one. -/
  | assign (name : String) (op : Option BinaryOperator) (e : Expression)
deriving DecidableEq, Repr

namespace Arithmetic

/-- A piece of an expression's text. -/
inductive Lexeme where
  | number (n : Int)
  | name (name : String)
  | sign (text : String)
deriving DecidableEq, Repr

/-- The signs of expressions, longer ones first. -/
def signs : List String :=
  ["<<=", ">>=", "&&", "||", "<<", ">>", "<=", ">=", "==", "!=", "+=", "-=", "*=", "/=", "%=", "&=",
    "|=", "^=", "+", "-", "*", "/", "%", "<", ">", "=", "!", "~", "&", "|", "^", "?", ":", "(", ")"]

/-- The lexemes of a text; one that is no lexeme is a sign that fits nowhere. -/
def lexemes : Nat → Octets → List Lexeme
  | 0, _ => []
  | fuel + 1, text =>
    match text with
    | [] => []
    | c :: rest =>
      if Octets.isSpace c then lexemes fuel rest
      else if isNameStart c then
        .name (String.ofList (text.takeWhile isNameChar)) ::
          lexemes fuel (text.dropWhile isNameChar)
      else if c.isDigit then
        match readInteger? true text with
        | some r => .number r.signed :: lexemes fuel r.rest
        | none => [.sign "?"]
      else
        match signs.find? fun s => s.toList.isPrefixOf text with
        | some s => .sign s :: lexemes fuel (text.drop s.length)
        | none => [.sign ""]

/-! ## Reading expressions -/

/-- The operator of a sign and how tightly it binds, from 0 on. -/
def binaryOperator? : String → Option (BinaryOperator × Nat)
  | "*" => some (.multiply, 0)
  | "/" => some (.divide, 0)
  | "%" => some (.remainder, 0)
  | "+" => some (.add, 1)
  | "-" => some (.subtract, 1)
  | "<<" => some (.shiftLeft, 2)
  | ">>" => some (.shiftRight, 2)
  | "<" => some (.less, 3)
  | "<=" => some (.lessEqual, 3)
  | ">" => some (.greater, 3)
  | ">=" => some (.greaterEqual, 3)
  | "==" => some (.equal, 4)
  | "!=" => some (.notEqual, 4)
  | "&" => some (.bitAnd, 5)
  | "^" => some (.bitXor, 6)
  | "|" => some (.bitOr, 7)
  | _ => none

/-- The number of levels at which operators bind. -/
def levelCount : Nat := 8

/-- The operator of a sign that assigns, if the sign does. -/
def assignment? (sign : String) : Option (Option BinaryOperator) :=
  if sign = "=" then some none
  else if ["==", "<=", ">=", "!="].contains sign then none
  else
    match sign.toList.reverse with
    | '=' :: op => (binaryOperator? (String.ofList op.reverse)).map fun (op, _) => some op
    | _ => none

/-- The operator of a sign in front of an operand. -/
def unaryOperator? : String → Option UnaryOperator
  | "-" => some .negate
  | "+" => some .plus
  | "~" => some .complement
  | "!" => some .not
  | _ => none

/-- What a reader found and what it left. -/
abbrev Read := Except String (Expression × List Lexeme)

/-- What an expression is read as: one that may assign, one that may choose, a chain of `||`, a
chain of `&&`, a chain of operators that bind at a level, or an operand. -/
inductive Grade where
  | assigning
  | choosing
  | either
  | both
  | level (n : Nat)
  | operand
deriving DecidableEq, Repr

mutual

/-- Reads an expression. -/
def read : Nat → Grade → List Lexeme → Read
  | 0, _, _ => .error "expecting primary"
  | fuel + 1, .assigning, .name name :: .sign s :: rest =>
    match assignment? s with
    | some op => do
      let (e, rest) ← read fuel .assigning rest
      return (.assign name op e, rest)
    | none => read fuel .choosing (.name name :: .sign s :: rest)
  | fuel + 1, .assigning, ls => read fuel .choosing ls
  | fuel + 1, .choosing, ls => do
    match ← read fuel .either ls with
    | (test, .sign "?" :: rest) =>
      match ← read fuel .assigning rest with
      | (a, .sign ":" :: rest) =>
        let (b, rest) ← read fuel .choosing rest
        return (.choice test a b, rest)
      | _ => throw "expecting ':'"
    | found => return found
  | fuel + 1, .either, ls => do
    match ← read fuel .both ls with
    | (a, .sign "||" :: rest) =>
      let (b, rest) ← read fuel .either rest
      return (.either a b, rest)
    | found => return found
  | fuel + 1, .both, ls => do
    match ← read fuel (.level levelCount) ls with
    | (a, .sign "&&" :: rest) =>
      let (b, rest) ← read fuel .both rest
      return (.both a b, rest)
    | found => return found
  | fuel + 1, .level 0, ls => read fuel .operand ls
  | fuel + 1, .level (n + 1), ls => do
    let (a, rest) ← read fuel (.level n) ls
    readMore fuel n a rest
  | fuel + 1, .operand, ls =>
    match ls with
    | .number n :: rest => .ok (.number n, rest)
    | .name name :: rest => .ok (.variableOf name, rest)
    | .sign "(" :: rest => do
      match ← read fuel .assigning rest with
      | (e, .sign ")" :: rest) => return (e, rest)
      | _ => throw "expecting ')'"
    | .sign s :: rest =>
      match unaryOperator? s with
      | some op => do
        let (e, rest) ← read fuel .operand rest
        return (.unary op e, rest)
      | none => .error "expecting primary"
    | [] => .error "expecting primary"

/-- Reads the operators of a level and their right operands after a left one. -/
def readMore : Nat → Nat → Expression → List Lexeme → Read
  | 0, _, a, rest => .ok (a, rest)
  | fuel + 1, level, a, rest =>
    match rest with
    | .sign s :: after =>
      match binaryOperator? s with
      | some (op, l) =>
        if l = level then do
          let (b, rest) ← read fuel (.level level) after
          readMore fuel level (.binary op a b) rest
        else .ok (a, rest)
      | none => .ok (a, rest)
    | _ => .ok (a, rest)

end

/-- The expression that a text is. -/
def parse (text : Octets) : Except String Expression := do
  let ls := lexemes (text.length + 1) text
  match ← read (16 * ls.length + 16) .assigning ls with
  | (e, []) => return e
  | _ => throw "expecting EOF"

/-! ## Values -/

/-- The integer of a truth value. -/
def ofBool (b : Bool) : Int :=
  if b then 1 else 0

/-- An operator on the bits of two words. -/
def onBits (f : Nat → Nat → Nat) (a b : Int) : Int :=
  wrap (f (wrapUnsigned a) (wrapUnsigned b))

/-- The value of an operator; there is none for a division by zero. -/
def BinaryOperator.apply? (op : BinaryOperator) (a b : Int) : Option Int :=
  let shift := (wrapUnsigned b) % 64
  match op with
  | .multiply => some (wrap (a * b))
  | .divide => if b = 0 then none else some (wrap (a.tdiv b))
  | .remainder => if b = 0 then none else some (a.tmod b)
  | .add => some (wrap (a + b))
  | .subtract => some (wrap (a - b))
  | .shiftLeft => some (wrap (a * Nat.pow 2 shift))
  | .shiftRight => some (a.fdiv (Nat.pow 2 shift))
  | .less => some (ofBool (a < b))
  | .lessEqual => some (ofBool (a ≤ b))
  | .greater => some (ofBool (b < a))
  | .greaterEqual => some (ofBool (b ≤ a))
  | .equal => some (ofBool (a == b))
  | .notEqual => some (ofBool (a != b))
  | .bitAnd => some (onBits Nat.land a b)
  | .bitXor => some (onBits Nat.xor a b)
  | .bitOr => some (onBits Nat.lor a b)

/-- The value of an operator in front of an integer. -/
def UnaryOperator.apply (op : UnaryOperator) (a : Int) : Int :=
  match op with
  | .negate => wrap (-a)
  | .plus => a
  | .complement => -a - 1
  | .not => ofBool (a == 0)

section

variable {m : Type → Type} [Monad m]
variable (lookup : String → m Int) (assign : String → Int → m Unit) (fail : String → m Int)

/-- Works out an operator. -/
def combine (op : BinaryOperator) (a b : Int) : m Int :=
  match BinaryOperator.apply? op a b with
  | some n => pure n
  | none => fail "division by zero"

/-- Works out an expression. -/
def evaluate : Expression → m Int
  | .number n => pure n
  | .variableOf name => lookup name
  | .unary op e => do return UnaryOperator.apply op (← evaluate e)
  | .binary op a b => do
    let a ← evaluate a
    let b ← evaluate b
    combine fail op a b
  | .both a b => do
    if (← evaluate a) = 0 then return 0 else return ofBool ((← evaluate b) != 0)
  | .either a b => do
    if (← evaluate a) ≠ 0 then return 1 else return ofBool ((← evaluate b) != 0)
  | .choice test a b => do
    if (← evaluate test) ≠ 0 then evaluate a else evaluate b
  | .assign name op e => do
    let n ← evaluate e
    let n ← match op with
      | some op => combine fail op (← lookup name) n
      | none => pure n
    assign name n
    return n

end

/-- The value of a text without variables. -/
def constant? (text : Octets) : Option Int :=
  match parse text with
  | .ok e =>
    Id.run (evaluate (m := OptionT Id) (fun _ => pure 0) (fun _ _ => pure ()) (fun _ => failure) e)
  | .error _ => none

example : constant? "1 + 2 * -3 << 1".toList = some (-10) := by decide +kernel
example : constant? "7/2 - -7%4 ? 010 : 1/0".toList = some 8 := by decide +kernel
example : constant? "1/0".toList = none ∧ constant? "(1".toList = none := by decide +kernel

end Arithmetic

end JsonShell.Interpreter
