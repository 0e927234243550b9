import JsonShell.Interpreter.Reader.Scan

/-!
# Reading words

What the characters of a word mean depends on where they stand: outside of quotes, between double
quotes, in braces after a parameter, in the text of a here-document or in arithmetic.  A word may
hold commands, so what reads those is a parameter.

Every step of `parts` takes a character off the text, so twice the length of the text is fuel enough
for a word and all that is nested in it.
-/

set_option autoImplicit false

namespace JsonShell.Interpreter

/-- Where characters stand. -/
inductive Context where
  | word
  | doubleQuotes
  /-- In braces; `quoted` tells that the braces stand between double quotes. -/
  | braces (quoted : Bool)
  | document
  /-- In arithmetic, within so many parentheses. -/
  | arithmetic (depth : Nat)
deriving DecidableEq, Repr

/-- The characters that end a word, unless they are quoted. -/
def endsWord (c : Char) : Bool :=
  c == ' ' || c == '\t' || c == '\n' || c == ';' || c == '&' || c == '|' || c == '<' || c == '>'
    || c == '(' || c == ')'

namespace Context

/-- A text that begins with what ends the context. -/
def isOver : Context → Octets → Bool
  | .word, c :: _ => endsWord c
  | .doubleQuotes, c :: _ => c == '"'
  | .braces _, c :: _ => c == '}'
  | .arithmetic 0, ')' :: ')' :: _ => true
  | _, _ => false

/-- What is missing if the text ends in the context. -/
def missing? : Context → Option String
  | .word | .document => none
  | .doubleQuotes => some "Unterminated quoted string"
  | .braces _ => some "Missing '\x7d'"
  | .arithmetic _ => some "Missing '))'"

/-- Quotes and backslashes work as they do outside of quotes. -/
def isOpen : Context → Bool
  | .word | .braces false => true
  | _ => false

/-- The characters that a backslash keeps where it does not keep all. -/
def isEscapable (context : Context) (c : Char) : Bool :=
  c == '$' || c == '\\' || c == '`' || (c == '"' && context != .document)
    || (c == '}' && context == .braces true)

/-- A character that means itself. -/
def character (context : Context) (c : Char) : Part :=
  if context.isOpen then .plain c else .literal c

/-- The context after a character that means itself. -/
def after : Context → Char → Context
  | .arithmetic depth, '(' => .arithmetic (depth + 1)
  | .arithmetic depth, ')' => .arithmetic (depth - 1)
  | context, _ => context

/-- The context of braces within a context. -/
def inBraces (context : Context) : Context :=
  .braces (!context.isOpen)

end Context

/-- Reads up to a character, which is passed over. -/
def readUpTo (c : Char) (missing : String) : Scan Octets := do
  let text ← Scan.takeWhile (· != c)
  match ← Scan.peek with
  | some _ =>
    Scan.skip
    return text
  | none => Scan.fail missing

/-- The text between grave accents, from after the first one on. -/
def accentText (inQuotes : Bool) (read : Octets) : Octets → Option (Octets × Octets)
  | [] => none
  | '`' :: rest => some (read.reverse, rest)
  | '\\' :: c :: rest =>
    if c == '`' || c == '\\' || c == '$' || (c == '"' && inQuotes) then
      accentText inQuotes (c :: read) rest
    else accentText inQuotes (c :: '\\' :: read) rest
  | c :: rest => accentText inQuotes (c :: read) rest

/-- Reads the command between grave accents. -/
def readAccents (commands : Scan Command) (context : Context) : Scan Part := do
  let s ← get
  match accentText (!context.isOpen) [] s.rest with
  | none => Scan.fail "EOF in backquote substitution"
  | some (text, rest) =>
    let command ← Scan.within text s.line do
      let command ← commands
      match (← get).ahead with
      | some .finish => return command
      | _ => Scan.fail "\")\" unexpected"
    set { s with
      rest := rest
      line := s.line + ((s.rest.take (s.rest.length - rest.length)).count '\n') }
    return .output command

/-- The parameter that a character stands for. -/
def specialParameter? : Char → Option Parameter
  | '#' => some .count
  | '*' => some .joined
  | '@' => some .each
  | '$' => some .process
  | '?' => some .status
  | '!' => some .job
  | '-' => some .options
  | _ => none

/-- The number that digits write. -/
def decimalValue (digits : Octets) : Nat :=
  digits.foldl (fun n c => n * 10 + (c.toNat - 48)) 0

/-- Reads a parameter in braces. -/
def bracedParameter? : Scan (Option Parameter) := do
  match ← Scan.peek with
  | none => return none
  | some c =>
    if isNameStart c then return some (.named (Octets.key (← Scan.takeWhile isNameChar)))
    else if c.isDigit then return some (.position (decimalValue (← Scan.takeWhile Char.isDigit)))
    else
      match specialParameter? c with
      | some p =>
        Scan.skip
        return some p
      | none => return none

/-- An operation that starts with a sign, and the length of the sign: what a word beside a parameter
is for, or which end a pattern takes something off. -/
inductive OperationSign where
  | fallback (kind : Fallback) (ifEmpty : Bool)
  | trim (atEnd longest : Bool)
deriving DecidableEq, Repr

/-- The fallback that a sign asks for. -/
def fallback? : Char → Option Fallback
  | '-' => some .value
  | '=' => some .assigned
  | '?' => some .complaint
  | '+' => some .replacement
  | _ => none

/-- The sign of an operation at the start of a text, and its length. -/
def operationSign? : Octets → Option (OperationSign × Nat)
  | ':' :: c :: _ => (fallback? c).map fun kind => (.fallback kind true, 2)
  | '#' :: '#' :: _ => some (.trim false true, 2)
  | '%' :: '%' :: _ => some (.trim true true, 2)
  | '#' :: _ => some (.trim false false, 1)
  | '%' :: _ => some (.trim true false, 1)
  | c :: _ => (fallback? c).map fun kind => (.fallback kind false, 1)
  | [] => none

/-- The text in braces is the length of a parameter. -/
def isLength : Octets → Bool
  | '#' :: c :: rest =>
    if isNameStart c then (rest.dropWhile isNameChar).head? == some '}'
    else if c.isDigit then (rest.dropWhile Char.isDigit).head? == some '}'
    else (specialParameter? c).isSome && rest.head? == some '}'
  | _ => false

mutual

/-- Reads parts up to the end of the context, which stays; `read` are those before, in reverse. -/
def parts (commands : Scan Command) : Nat → Context → Word → Scan Word
  | 0, _, _ => Scan.fail "word unexpected"
  | fuel + 1, context, read => do
    match (← get).rest with
    | [] =>
      match context.missing? with
      | some message => Scan.fail message
      | none => return read.reverse
    | c :: rest =>
      if context.isOver (c :: rest) then return read.reverse
      else
        Scan.skip
        match c with
        | '\\' =>
          match rest with
          | [] => parts commands fuel context (.literal c :: read)
          | '\n' :: _ =>
            Scan.skip
            parts commands fuel context read
          | d :: _ =>
            if context.isOpen || context.isEscapable d then
              Scan.skip
              parts commands fuel context (.literal d :: read)
            else parts commands fuel context (.literal c :: read)
        | '\'' =>
          if context.isOpen then
            let text ← readUpTo '\'' "Unterminated quoted string"
            parts commands fuel context (.quoted (text.map .literal) :: read)
          else parts commands fuel context (.literal c :: read)
        | '"' =>
          match context with
          | .document | .arithmetic _ => parts commands fuel context (.literal c :: read)
          | .braces true => parts commands fuel context read
          | _ =>
            let inner ← parts commands fuel .doubleQuotes []
            Scan.skip
            parts commands fuel context (.quoted inner :: read)
        | '`' =>
          let part ← readAccents commands context
          parts commands fuel context (part :: read)
        | '$' =>
          let part ← afterDollar commands fuel context
          parts commands fuel context (part :: read)
        | c => parts commands fuel (context.after c) (context.character c :: read)

/-- Reads what a dollar sign starts; one that starts nothing stands for itself. -/
def afterDollar (commands : Scan Command) : Nat → Context → Scan Part
  | 0, _ => Scan.fail "word unexpected"
  | fuel + 1, context => do
    Scan.joinLines
    match (← get).rest with
    | '(' :: '(' :: _ =>
      Scan.skipMany 2
      let expression ← parts commands fuel (.arithmetic 0) []
      Scan.skipMany 2
      return .arithmetic expression
    | '(' :: _ =>
      Scan.skip
      let command ← commands
      match (← get).ahead with
      | some (.sign ")") =>
        modify fun s => { s with ahead := none }
        return .output command
      | _ => Scan.fail "end of file unexpected (expecting \")\")"
    | '{' :: rest =>
      Scan.skip
      if isLength rest then
        Scan.skip
        let parameter ← bracedParameter?
        Scan.skip
        return .value (parameter.getD .count) .length
      else
        match ← bracedParameter? with
        | none => badSubstitution commands fuel context
        | some parameter =>
          let rest := (← get).rest
          if rest.head? = some '}' then
            Scan.skip
            return .value parameter .none
          else
            match operationSign? rest with
            | none => badSubstitution commands fuel context
            | some (sign, length) =>
              Scan.skipMany length
              let inner := match sign with
                | .fallback _ _ => context.inBraces
                | .trim _ _ => .braces false
              let word ← parts commands fuel inner []
              Scan.skip
              return .value parameter (match sign with
                | .fallback kind ifEmpty => .fallback kind ifEmpty word
                | .trim atEnd longest => .trim atEnd longest word)
    | c :: _ =>
      if isNameStart c then
        return .value (.named (Octets.key (← Scan.takeWhile isNameChar))) .none
      else if c.isDigit then
        Scan.skip
        return .value (.position (c.toNat - 48)) .none
      else
        match specialParameter? c with
        | some p =>
          Scan.skip
          return .value p .none
        | none => return context.character '$'
    | [] => return context.character '$'

/-- Passes over the rest of braces that hold no operation. -/
def badSubstitution (commands : Scan Command) : Nat → Context → Scan Part
  | 0, _ => Scan.fail "word unexpected"
  | fuel + 1, context => do
    let _ ← parts commands fuel context.inBraces []
    Scan.skip
    return .value .status .invalid

end

end JsonShell.Interpreter
