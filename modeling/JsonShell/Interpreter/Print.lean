import JsonShell.Interpreter.Real

/-!
# Printing

`echo` prints its arguments with spaces between them and a line break after them.  `printf` prints a
format in which conversions take arguments; it starts over while there are arguments left, and takes
nothing for a missing one.  Both know escapes of a backslash and a letter or octal digits, which
stand for single bytes.
-/

set_option autoImplicit false

namespace JsonShell.Interpreter

/-! ## Escapes -/

/-- The byte of an escape that is one letter after the backslash. -/
def letterEscape? : Char → Option Char
  | '\\' => some '\\'
  | 'a' => some '\x07'
  | 'b' => some '\x08'
  | 'e' => some '\x1b'
  | 'f' => some '\x0c'
  | 'n' => some '\n'
  | 'r' => some '\r'
  | 't' => some '\t'
  | 'v' => some '\x0b'
  | _ => none

/-- The byte that what follows a backslash stands for, and how much of it that takes.  A backslash
that escapes nothing stands for itself. -/
def escape (after : Octets) : Char × Nat :=
  let digits := (after.takeWhile (isDigitOf 8)).take 3
  if digits.isEmpty then
    match after with
    | c :: _ =>
      match letterEscape? c with
      | some e => (e, 1)
      | none => ('\\', 0)
    | [] => ('\\', 0)
  else (Char.ofNat (digitsValue 8 digits % 256), digits.length)

/-- The number of zeros, one or none, that octal digits follow. -/
def leadingZero (after : Octets) : Nat :=
  match after with
  | '0' :: second :: _ => if isDigitOf 8 second then 1 else 0
  | _ => 0

/-- An argument with its escapes, and whether printing goes on after it: `\c` ends it.  The first
`skip` bytes belong to an escape that has been read. -/
def unescape (skip : Nat) : Octets → Octets × Bool
  | [] => ([], true)
  | c :: rest =>
    match skip with
    | skip + 1 => unescape skip rest
    | 0 =>
      if c = '\\' then
        if rest.head? = some 'c' then ([], false)
        else
          let zeros := leadingZero rest
          let (e, length) := escape (rest.drop zeros)
          let (more, go) := unescape (zeros + length) rest
          (e :: more, go)
      else
        let (more, go) := unescape 0 rest
        (c :: more, go)

/-- The arguments with spaces between them and what ends them. -/
def echoArgs (ending : Octets) : List Octets → Octets
  | [] => ending
  | arg :: rest =>
    let (text, go) := unescape 0 arg
    if go then text ++ (if rest.isEmpty then ending else ' ' :: echoArgs ending rest)
    else text

/-- What `echo` prints. -/
def echo (args : List Octets) : Octets :=
  match args with
  | ['-', 'n'] :: rest => echoArgs [] rest
  | args => echoArgs ['\n'] args

/-! ## Formats -/

/-- A width or a precision. -/
inductive Amount where
  | absent
  | fixed (n : Nat)
  /-- An argument says it. -/
  | given
deriving DecidableEq, Repr

/-- A conversion of a format. -/
structure Conversion where
  flags : List Char
  width : Amount
  precision : Amount
  letter : Char
deriving DecidableEq, Repr

/-- Why a conversion cannot be carried out. -/
inductive FormatFault where
  | missingLetter
  | unknown (directive : Octets)
deriving DecidableEq, Repr

/-- What is told about a conversion that cannot be carried out. -/
def FormatFault.message : FormatFault → Octets
  | .missingLetter => "missing format character".toList
  | .unknown directive => directive ++ ": invalid directive".toList

/-- A part of a format. -/
inductive FormatPart where
  | char (c : Char)
  | conversion (c : Conversion)
  /-- What cannot be carried out. -/
  | invalid (fault : FormatFault)
deriving DecidableEq, Repr

/-- An amount at the start of a text, and what follows it. -/
def amountOf (text : Octets) : Amount × Octets :=
  match text with
  | '*' :: rest => (.given, rest)
  | _ =>
    let digits := text.takeWhile Char.isDigit
    if digits.isEmpty then (.absent, text)
    else (.fixed (digitsValue 10 digits), text.drop digits.length)

/-- The letters of conversions. -/
def conversionLetters : List Char :=
  "bcsdiouxXaAeEfFgG".toList

/-- The conversion after a percent sign, and what follows it. -/
def conversionOf (text : Octets) : FormatPart × Octets :=
  let flags := text.takeWhile fun c => "#-+ 0".toList.contains c
  let (width, rest) := amountOf (text.drop flags.length)
  let (precision, rest) : Amount × Octets := match rest with
    | '.' :: rest =>
      let (amount, rest) := amountOf rest
      (if amount = .absent then .fixed 0 else amount, rest)
    | rest => (.absent, rest)
  match rest with
  | [] => (.invalid .missingLetter, [])
  | letter :: rest =>
    if conversionLetters.contains letter then (.conversion ⟨flags, width, precision, letter⟩, rest)
    else (.invalid (.unknown ('%' :: text.take (text.length - rest.length))), rest)

/-- The parts of a format. -/
def formatParts : Nat → Octets → List FormatPart
  | 0, _ => []
  | fuel + 1, text =>
    match text with
    | [] => []
    | '\\' :: rest =>
      let (e, length) := escape rest
      .char e :: formatParts fuel (rest.drop length)
    | '%' :: '%' :: rest => .char '%' :: formatParts fuel rest
    | '%' :: rest =>
      let (part, rest) := conversionOf rest
      part :: formatParts fuel rest
    | c :: rest => .char c :: formatParts fuel rest

/-! ## Conversions -/

/-- How a conversion is carried out: its flags, width and precision. -/
structure Layout where
  left : Bool
  zeros : Bool
  alternate : Bool
  sign : Octets
  width : Nat
  precision : Option Nat
deriving DecidableEq, Repr

/-- Fills a text up to the width with blanks. -/
def Layout.pad (l : Layout) (text : Octets) : Octets :=
  let blanks := List.replicate (l.width - text.length) ' '
  if l.left then text ++ blanks else blanks ++ text

/-- Fills a number up to the width, with zeros after its sign if they are asked for. -/
def Layout.padNumber (l : Layout) (sign body : Octets) : Octets :=
  if l.zeros && !l.left then
    sign ++ List.replicate (l.width - sign.length - body.length) '0' ++ body
  else l.pad (sign ++ body)

/-- The digits of a number, at least as many as the precision says. -/
def Layout.digits (l : Layout) (base n : Nat) : Octets :=
  let digits := if n = 0 && l.precision == some 0 then [] else Nat.toDigits base n
  List.replicate (l.precision.getD 1 - digits.length) '0' ++ digits

/-- An integer: a precision turns zeros at its front off. -/
def Layout.integer (l : Layout) (n : Int) : Octets :=
  let l := if l.precision.isSome then { l with zeros := false } else l
  l.padNumber (if n < 0 then ['-'] else l.sign) (l.digits 10 n.natAbs)

/-- An unsigned integer in the base of a letter. -/
def Layout.unsigned (l : Layout) (letter : Char) (n : Nat) : Octets :=
  let l := if l.precision.isSome then { l with zeros := false } else l
  match letter with
  | 'o' =>
    let digits := l.digits 8 n
    l.padNumber [] (if l.alternate && digits.head? != some '0' then '0' :: digits else digits)
  | 'x' => l.padNumber (if l.alternate && n ≠ 0 then ['0', 'x'] else []) (l.digits 16 n)
  | 'X' =>
    l.padNumber (if l.alternate && n ≠ 0 then ['0', 'X'] else []) ((l.digits 16 n).map Char.toUpper)
  | _ => l.padNumber [] (l.digits 10 n)

/-- A real number in the way of a letter. -/
def Layout.real (l : Layout) (letter : Char) (r : Real) : Octets :=
  let sign := if r.isNegative then ['-'] else l.sign
  let places := l.precision.getD 6
  let body : Octets := match r with
    | .infinite _ => "inf".toList
    | .notNumber _ => "nan".toList
    | .finite x =>
      match letter.toLower with
      | 'f' => Real.fixed l.alternate places x
      | 'e' => Real.scientific l.alternate 'e' places x
      | 'g' => Real.general l.alternate 'e' places x
      | _ => Real.hexadecimal l.alternate l.precision x
  let body := if letter.isUpper then body.map Char.toUpper else body
  match r with
  | .finite _ =>
    match letter.toLower, body with
    | 'a', z :: x :: rest => l.padNumber (sign ++ [z, x]) rest
    | _, _ => l.padNumber sign body
  | _ => l.pad (sign ++ body)

/-! ## Printing a format -/

/-- What is wrong with an argument that is to be a number. -/
inductive ArgumentFault where
  | notNumeric
  | notConverted
  | outOfRange
deriving DecidableEq, Repr

/-- What is told about an argument. -/
def ArgumentFault.message (arg : Octets) : ArgumentFault → Octets
  | .notNumeric => arg ++ ": expected numeric value".toList
  | .notConverted => arg ++ ": not completely converted".toList
  | .outOfRange => arg ++ ": Numerical result out of range".toList

/-- A run of `printf`: the arguments that are left, what is printed, in reverse, and what is wrong
with the arguments. -/
structure Printing where
  args : List Octets
  printed : Octets
  complaints : List (Octets × ArgumentFault)

/-- How a pass over a format ended. -/
inductive PassEnd where
  | reached
  /-- At an argument that ends all printing. -/
  | stopped
  /-- At what cannot be carried out. -/
  | failed (fault : FormatFault)
deriving DecidableEq, Repr

namespace Printing

/-- Prints a text. -/
def put (p : Printing) (text : Octets) : Printing :=
  { p with printed := text.reverse ++ p.printed }

/-- The next argument, and the printing without it. -/
def next (p : Printing) : Option Octets × Printing :=
  match p.args with
  | [] => (none, p)
  | arg :: args => (some arg, { p with args := args })

/-- The complaint about an argument of which something is left, or which is out of range. -/
def check (p : Printing) (arg rest : Octets) (inRange : Bool) : Printing :=
  let complain (fault : ArgumentFault) : Printing :=
    { p with complaints := p.complaints ++ [(arg, fault)] }
  if !rest.isEmpty then
    complain (if rest.length = arg.length then .notNumeric else .notConverted)
  else if inRange then p
  else complain .outOfRange

/-- The number of the byte after a quote, if the argument starts with one. -/
def quotedByte? (arg : Octets) : Option Nat :=
  match arg with
  | c :: rest => if c == '\'' || c == '"' then some ((rest.head?.map Char.toNat).getD 0) else none
  | [] => none

/-- The next argument as an integer, which is a signed or an unsigned word. -/
def nextInteger (p : Printing) (signed : Bool) : Int × Printing :=
  match p.next with
  | (none, p) => (0, p)
  | (some arg, p) =>
    match quotedByte? arg with
    | some n => (n, p)
    | none =>
      match readInteger? true arg with
      | none => (0, p.check arg arg true)
      | some r =>
        if signed then (r.signed, p.check arg r.rest r.fits)
        else
          let fits := r.magnitude < Nat.pow 2 64
          let n := if fits then r.magnitude else Nat.pow 2 64 - 1
          (if r.negative && fits then wrapUnsigned (-n) else n, p.check arg r.rest fits)

/-- The next argument as a real number. -/
def nextReal (p : Printing) : Real × Printing :=
  match p.next with
  | (none, p) => (.finite (Binary64.zero false), p)
  | (some arg, p) =>
    match quotedByte? arg with
    | some n => (.finite ((Binary64.nearest false n 1).getD (Binary64.zero false)), p)
    | none =>
      match Real.read? arg with
      | none => (.finite (Binary64.zero false), p.check arg arg true)
      | some r => (r.value, p.check arg r.rest (!r.overflows))

/-- An amount, for which an argument may be taken. -/
def amount (p : Printing) : Amount → Option Int × Printing
  | .absent => (none, p)
  | .fixed n => (some n, p)
  | .given =>
    let (n, p) := p.nextInteger true
    (some n, p)

/-- The layout of a conversion. -/
def layout (p : Printing) (c : Conversion) : Layout × Printing :=
  let (width, p) := p.amount c.width
  let (precision, p) := p.amount c.precision
  let width := width.getD 0
  ({ left := c.flags.contains '-' || width < 0
     zeros := c.flags.contains '0'
     alternate := c.flags.contains '#'
     sign := if c.flags.contains '+' then ['+'] else if c.flags.contains ' ' then [' '] else []
     width := width.natAbs
     precision := precision.bind fun n => if n < 0 then none else some n.toNat },
    p)

/-- Carries out a conversion; the answer tells whether printing goes on. -/
def convert (p : Printing) (c : Conversion) : Printing × Bool :=
  let (l, p) := p.layout c
  let cut (text : Octets) : Octets := match l.precision with
    | some n => text.take n
    | none => text
  if c.letter = 's' then
    let (arg, p) := p.next
    (p.put (l.pad (cut (arg.getD []))), true)
  else if c.letter = 'b' then
    let (arg, p) := p.next
    let (text, go) := unescape 0 (arg.getD [])
    (p.put (l.pad (cut text)), go)
  else if c.letter = 'c' then
    let (arg, p) := p.next
    (p.put (l.pad [((arg.getD []).head?).getD '\x00']), true)
  else if c.letter = 'd' || c.letter = 'i' then
    let (n, p) := p.nextInteger true
    (p.put (l.integer n), true)
  else if "ouxX".toList.contains c.letter then
    let (n, p) := p.nextInteger false
    (p.put (l.unsigned c.letter n.toNat), true)
  else
    let (r, p) := p.nextReal
    (p.put (l.real c.letter r), true)

/-- One pass over the parts of a format. -/
def pass (p : Printing) : List FormatPart → Printing × PassEnd
  | [] => (p, .reached)
  | .char c :: rest => { p with printed := c :: p.printed }.pass rest
  | .invalid fault :: _ => (p, .failed fault)
  | .conversion c :: rest =>
    match p.convert c with
    | (p, true) => p.pass rest
    | (p, false) => (p, .stopped)

/-- Passes over a format until no argument is left, or until a pass takes none. -/
def passes (parts : List FormatPart) : Nat → Printing → Printing × PassEnd
  | 0, p => (p, .reached)
  | fuel + 1, p =>
    match p.pass parts with
    | (q, .reached) =>
      if q.args.isEmpty || q.args.length = p.args.length then (q, .reached)
      else passes parts fuel q
    | stopped => stopped

end Printing

/-- What `printf` prints, what it complains about, and why it broke off. -/
structure Printed where
  text : Octets
  complaints : List (Octets × ArgumentFault)
  failure : Option FormatFault
deriving DecidableEq, Repr

/-- What `printf` prints. -/
def printf (format : Octets) (args : List Octets) : Printed :=
  let parts := formatParts format.length format
  let (p, passEnd) := Printing.passes parts (args.length + 1) ⟨args, [], []⟩
  ⟨p.printed.reverse, p.complaints, match passEnd with
    | .failed fault => some fault
    | _ => none⟩

example : printf "<%s>\\n".toList [['a'], ['b']] = ⟨"<a>\n<b>\n".toList, [], none⟩ := by
  decide +kernel
example : printf "%5.1f|%-4d|%x".toList ["2.25".toList, "7".toList, "255".toList] =
    ⟨"  2.2|7   |ff".toList, [], none⟩ := by decide +kernel
example : printf "%d".toList ["12abc".toList] =
    ⟨"12".toList, [("12abc".toList, .notConverted)], none⟩ := by decide +kernel
example : echo ["a\\0101\\cb".toList, ['b']] = "aA".toList := by decide +kernel

end JsonShell.Interpreter
