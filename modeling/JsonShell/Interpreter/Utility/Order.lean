import JsonShell.Interpreter.Integer
import JsonShell.Interpreter.Utility.Basic

/-!
# Order of lines

`sort` puts lines in order, by all of a line or by keys in it, and `uniq` takes neighbours that are
the same together.
-/

set_option autoImplicit false

namespace JsonShell.Interpreter.Utility

open Shell

/-! ## Keys -/

/-- How texts are compared: the letters of the options. -/
abbrev Manner := List Char

/-- A place in a line: a field and a byte in it, both counted from zero. -/
structure KeyPlace where
  field : Nat
  byte : Nat
  skipsBlanks : Bool

/-- The part of a line that is compared, and how. -/
structure Key where
  start : KeyPlace
  /-- The first byte after the key; byte 0 is the end of the field. -/
  stop : Option KeyPlace
  manner : Manner

/-- The letters that say how texts are compared. -/
def mannerLetters : List Char :=
  "dfghiMnRrV".toList

/-- A place that a text writes, with the letters after it and what follows. -/
def keyPlace? (text : Octets) : Option (Nat × Nat × Octets × Octets) :=
  let field := text.takeWhile Char.isDigit
  let rest := text.drop field.length
  let (byte, rest) : Option Nat × Octets := match rest with
    | '.' :: rest =>
      let digits := rest.takeWhile Char.isDigit
      (natural? digits, rest.drop digits.length)
    | rest => (some 0, rest)
  let letters := rest.takeWhile Char.isAlpha
  match natural? field, byte with
  | some f, some b => if f = 0 then none else some (f - 1, b, letters, rest.drop letters.length)
  | _, _ => none

/-- The key that a text writes. -/
def Key.read? (text : Octets) : Option Key :=
  let isKnown (letters : Octets) : Bool := letters.all fun c => c == 'b' || mannerLetters.contains c
  match keyPlace? text with
  | none => none
  | some (field, byte, letters, rest) =>
    let start : KeyPlace := ⟨field, byte - 1, letters.contains 'b'⟩
    match rest with
    | [] => if isKnown letters then some ⟨start, none, letters.filter (· != 'b')⟩ else none
    | ',' :: rest =>
      match keyPlace? rest with
      | some (field, byte, more, []) =>
        if isKnown (letters ++ more) then
          some ⟨start, some ⟨field, byte, more.contains 'b'⟩, (letters ++ more).filter (· != 'b')⟩
        else none
      | _ => none
    | _ => none

/-- What follows so many fields of a line.  Without a separator a field has the blanks before it. -/
def afterFields (separator : Option Char) : Nat → Octets → Octets
  | 0, line => line
  | n + 1, line =>
    match separator with
    | some s => afterFields separator n ((line.dropWhile (· != s)).drop 1)
    | none =>
      afterFields separator n
        ((line.dropWhile Octets.isBlank).dropWhile fun c => !Octets.isBlank c)

/-- The length of the field at the start of a text. -/
def fieldLength (separator : Option Char) (text : Octets) : Nat :=
  match separator with
  | some s => (text.takeWhile (· != s)).length
  | none =>
    let blanks := (text.takeWhile Octets.isBlank).length
    blanks + ((text.drop blanks).takeWhile fun c => !Octets.isBlank c).length

/-- What follows a place in a line. -/
def KeyPlace.rest (p : KeyPlace) (separator : Option Char) (line : Octets) : Octets :=
  let rest := afterFields separator p.field line
  let rest := if p.skipsBlanks then rest.dropWhile Octets.isBlank else rest
  rest.drop p.byte

/-- The text of a key in a line. -/
def Key.text (k : Key) (separator : Option Char) (line : Octets) : Octets :=
  let rest := k.start.rest separator line
  match k.stop with
  | none => rest
  | some p =>
    let after :=
      if p.byte = 0 then
        let field := afterFields separator p.field line
        field.drop (fieldLength separator field)
      else p.rest separator line
    rest.take (rest.length - after.length)

/-! ## Comparing -/

/-- A decimal number at the start of a text: its sign, and its digits before and after the point. -/
def decimalOf (text : Octets) : Bool × Octets × Octets × Octets :=
  let text := text.dropWhile Octets.isBlank
  let (negative, body) : Bool × Octets := match text with
    | '-' :: body => (true, body)
    | body => (false, body)
  let whole := body.takeWhile Char.isDigit
  let rest := body.drop whole.length
  match rest with
  | '.' :: rest =>
    let places := rest.takeWhile Char.isDigit
    (negative, whole, places, rest.drop places.length)
  | rest => (negative, whole, [], rest)

/-- A decimal number with so many places, as an integer. -/
def scaled (places : Nat) (d : Bool × Octets × Octets × Octets) : Int :=
  let (negative, whole, fraction, _) := d
  let digits := whole ++ fraction ++ List.replicate (places - fraction.length) '0'
  let n : Int := digitsValue 10 digits
  if negative then -n else n

/-- The order of two numbers at the starts of texts. -/
def compareNumbers (a b : Octets) : Ordering :=
  let x := decimalOf a
  let y := decimalOf b
  let places := max x.2.2.1.length y.2.2.1.length
  compare (scaled places x) (scaled places y)

/-- The rank of the letter after a number. -/
def suffixRank (text : Octets) : Nat :=
  match (decimalOf text).2.2.2 with
  | c :: _ => match "KMGTPEZY".toList.idxOf? c.toUpper with
    | some n => n + 1
    | none => 0
  | [] => 0

/-- The order of two numbers with letters for powers of a thousand. -/
def compareSized (a b : Octets) : Ordering :=
  let signed (t : Octets) : Int :=
    let d := decimalOf t
    let isZero := (d.2.1 ++ d.2.2.1).all (· == '0')
    if isZero then 0 else if d.1 then -(1 + suffixRank t : Int) else 1 + suffixRank t
  (compare (signed a) (signed b)).then (compareNumbers a b)

/-- The number of the month at the start of a text. -/
def monthOf (text : Octets) : Nat :=
  let start := ((text.dropWhile Octets.isBlank).take 3).map Char.toUpper
  match ["JAN", "FEB", "MAR", "APR", "MAY", "JUN", "JUL", "AUG", "SEP", "OCT", "NOV", "DEC"].idxOf?
    (Octets.key start) with
  | some n => n + 1
  | none => 0

/-- The order of two texts by their bytes. -/
def compareOctets (a b : Octets) : Ordering :=
  if a == b then .eq else if Octets.before a b then .lt else .gt

/-- The rank of a byte in the name of a version. -/
def versionRank (c : Char) : Nat :=
  if c == '~' then 0 else if c.isAlpha then c.toNat + 1 else c.toNat + 256

/-- The order of two names of versions: runs of digits are numbers. -/
def compareVersions : Nat → Octets → Octets → Ordering
  | 0, _, _ => .eq
  | fuel + 1, a, b =>
    let texts := (a.takeWhile fun c => !c.isDigit, b.takeWhile fun c => !c.isDigit)
    let ranks (t : Octets) : List Nat := t.map versionRank ++ [1]
    let first := compareRanks (ranks texts.1) (ranks texts.2)
    if first ≠ .eq then first
    else
      let a := a.drop texts.1.length
      let b := b.drop texts.2.length
      let numbers := (a.takeWhile Char.isDigit, b.takeWhile Char.isDigit)
      let second := compare (digitsValue 10 numbers.1) (digitsValue 10 numbers.2)
      if second ≠ .eq then second
      else if a.isEmpty && b.isEmpty then .eq
      else compareVersions fuel (a.drop numbers.1.length) (b.drop numbers.2.length)
where
  /-- The order of lists of ranks. -/
  compareRanks : List Nat → List Nat → Ordering
    | [], [] => .eq
    | [], _ :: _ => .lt
    | _ :: _, [] => .gt
    | x :: xs, y :: ys => (compare x y).then (compareRanks xs ys)

/-- The bytes of a text that count in a manner. -/
def countedBytes (m : Manner) (text : Octets) : Octets :=
  let text := if m.contains 'd' then
    text.filter fun c => Octets.isBlank c || c.isAlphanum else text
  let text := if m.contains 'i' then
    text.filter fun c => 32 ≤ c.toNat && c.toNat < 127 else text
  if m.contains 'f' then text.map Char.toUpper else text

/-- The order of two texts in a manner. -/
def compareIn (m : Manner) (a b : Octets) : Ordering :=
  let order :=
    if m.contains 'n' || m.contains 'g' then compareNumbers a b
    else if m.contains 'h' then compareSized a b
    else if m.contains 'M' then compare (monthOf a) (monthOf b)
    else if m.contains 'V' then compareVersions (a.length + b.length + 1) a b
    else compareOctets (countedBytes m a) (countedBytes m b)
  if m.contains 'r' then order.swap else order

/-- How lines are sorted. -/
structure Sorting where
  keys : List Key
  manner : Manner
  skipsBlanks : Bool
  separator : Option Char
  isStable : Bool
  isUnique : Bool

/-- The order of two lines by keys. -/
def Sorting.compareKeys (o : Sorting) : List Key → Octets → Octets → Ordering
  | [], _, _ => .eq
  | k :: rest, a, b =>
    let inherits := k.manner.isEmpty && !k.start.skipsBlanks
    let k := if inherits then
      { k with
        start := { k.start with skipsBlanks := o.skipsBlanks }
        manner := o.manner } else k
    (compareIn k.manner (k.text o.separator a) (k.text o.separator b)).then
      (o.compareKeys rest a b)

/-- The order of two lines, with no regard to what else is in them than the keys. -/
def Sorting.compareMain (o : Sorting) (a b : Octets) : Ordering :=
  if o.keys.isEmpty then
    let trim (t : Octets) : Octets := if o.skipsBlanks then t.dropWhile Octets.isBlank else t
    compareIn o.manner (trim a) (trim b)
  else o.compareKeys o.keys a b

/-- The order of two lines. -/
def Sorting.compareLines (o : Sorting) (a b : Octets) : Ordering :=
  let main := o.compareMain a b
  if o.isStable || o.isUnique then main
  else main.then (if o.manner.contains 'r' then compareOctets b a else compareOctets a b)

/-- The first of neighbours that are the same. -/
def firstOfEach (same : Octets → Octets → Bool) : List Octets → List Octets
  | [] => []
  | [a] => [a]
  | a :: b :: rest =>
    match firstOfEach same (b :: rest) with
    | c :: more => if same a b then a :: more else a :: c :: more
    | [] => [a]

/-- The lines in order. -/
def Sorting.sort (o : Sorting) (lines : List Octets) : List Octets :=
  let lines := lines.mergeSort fun a b => o.compareLines a b ≠ .gt
  if o.isUnique then firstOfEach (fun a b => o.compareMain a b = .eq) lines else lines

/-- The number of the first line, counted from two, that should stand before its neighbour. -/
def Sorting.disorder? (o : Sorting) (n : Nat) : List Octets → Option (Nat × Octets)
  | a :: b :: rest =>
    let order := o.compareLines a b
    if order = .gt || (o.isUnique && order = .eq) then some (n, b)
    else o.disorder? (n + 1) (b :: rest)
  | _ => none

/-- The options of `sort`. -/
def sortGrammar : Grammar :=
  ⟨"bcCdfghik:mMno:rRsS:t:T:uVz",
    [("ignore-leading-blanks", 'b'), ("dictionary-order", 'd'), ("ignore-case", 'f'),
      ("general-numeric-sort", 'g'), ("human-numeric-sort", 'h'), ("ignore-nonprinting", 'i'),
      ("key", 'k'), ("merge", 'm'), ("month-sort", 'M'), ("numeric-sort", 'n'), ("output", 'o'),
      ("reverse", 'r'), ("stable", 's'), ("field-separator", 't'), ("unique", 'u'),
      ("version-sort", 'V'), ("check", 'c')]⟩

/-- The separator that an option names. -/
def separatorOf (value : Option Octets) : Option Char :=
  match value with
  | some ['\\', '0'] => some '\x00'
  | some (c :: _) => some c
  | _ => none

/-- `sort`. -/
def sort : Utility := fun _ args =>
  withCall "sort" sortGrammar 2 false args fun c => do
    match (c.values 'k').mapM Key.read? with
    | none =>
      let wrong := ((c.values 'k').find? fun k => (Key.read? k).isNone).getD []
      let reason := if wrong.head? == some '0' then "field number is zero: " else ""
      say "sort" (reason.toList ++ "invalid field specification ".toList ++ quoted wrong)
      return 2
    | some keys =>
      let manner := (c.options.map Prod.fst).filter fun l => mannerLetters.contains l
      let o : Sorting :=
        ⟨keys, manner, c.has 'b', separatorOf (c.value? 't'), c.has 's', c.has 'u'⟩
      let paths := if c.operands.isEmpty then [['-']] else c.operands
      let t ← files
      let missing := paths.find? fun p => !isInput p && (textIn t p).toOption.isNone
      match missing with
      | some path =>
        let fault := if t.isDirectory (pathOf path) then FileFault.isDirectory else .notFound
        let deed := if fault = .isDirectory then "read failed: " else "cannot read: "
        say "sort" (deed.toList ++ path ++ ": ".toList ++ (faultText fault).toList)
        return 2
      | none =>
        let (texts, _) ← textsAt "sort" paths
        let lines := texts.flatMap fun t => Octets.lines t.2
        if c.has 'c' || c.has 'C' then
          match o.disorder? 2 lines with
          | none => return 0
          | some (n, line) =>
            let path := (c.operands.head?).getD ['-']
            if c.has 'c' then
              say "sort"
                (path ++ ':' :: Octets.natural n ++ ": disorder: ".toList ++ line)
            return 1
        else
          let text := Octets.unlines (o.sort lines)
          match c.value? 'o' with
          | none =>
            write 1 text
            return 0
          | some path =>
            match ← changeFiles fun t => t.write (pathOf path) (Octets.toBytes text) with
            | none => return 0
            | some fault =>
              say "sort" ("open failed: ".toList ++ path ++ ": ".toList ++ (faultText fault).toList)
              return 2

/-! ## Neighbours -/

/-- What `uniq` compares and shows. -/
structure Gathering where
  ignoresCase : Bool
  fields : Nat
  bytes : Nat
  width : Option Nat
  counts : Bool
  onlyRepeated : Bool
  onlySingle : Bool
  allRepeated : Bool

/-- The part of a line that is compared. -/
def Gathering.key (o : Gathering) (line : Octets) : Octets :=
  let rest := (afterFields none o.fields line).drop o.bytes
  let rest := match o.width with
    | some n => rest.take n
    | none => rest
  if o.ignoresCase then rest.map Char.toLower else rest

/-- Runs of neighbours with the same keys. -/
def Gathering.runs (o : Gathering) : List Octets → List (List Octets)
  | [] => []
  | a :: rest =>
    match o.runs rest with
    | (b :: more) :: others =>
      if o.key a == o.key b then (a :: b :: more) :: others else [a] :: (b :: more) :: others
    | others => [a] :: others

/-- What is shown of a run. -/
def Gathering.shown (o : Gathering) (run : List Octets) : List Octets :=
  let n := run.length
  if o.allRepeated then (if 1 < n then run else [])
  else if (o.onlyRepeated && n = 1) || (o.onlySingle && 1 < n) then []
  else
    (run.take 1).map fun line =>
      if o.counts then padLeft 7 (Octets.natural n) ++ ' ' :: line else line

/-- `uniq`. -/
def uniq : Utility := fun _ args =>
  let g : Grammar := ⟨"cdDf:is:uw:z", [("count", 'c'), ("repeated", 'd'), ("skip-fields", 'f'),
    ("ignore-case", 'i'), ("skip-chars", 's'), ("unique", 'u'), ("check-chars", 'w')]⟩
  withCall "uniq" g 1 false args fun c => do
    let number (letter : Char) : Option Nat := (c.value? letter).bind natural?
    let o : Gathering :=
      ⟨c.has 'i', (number 'f').getD 0, (number 's').getD 0, number 'w', c.has 'c', c.has 'd',
        c.has 'u', c.has 'D'⟩
    match ← textAt? "uniq" ((c.operands[0]?).getD ['-']) with
    | none => return 1
    | some text =>
      let shown := Octets.unlines ((o.runs (Octets.lines text)).flatMap o.shown)
      match c.operands[1]? with
      | none | some ['-'] =>
        write 1 shown
        return 0
      | some path =>
        match ← changeFiles fun t => t.write (pathOf path) (Octets.toBytes shown) with
        | none => return 0
        | some fault =>
          sayFault "uniq" path fault
          return 1

end JsonShell.Interpreter.Utility
