import JsonShell.Interpreter.Utility.Basic

/-!
# Showing texts

Utilities that pass texts on as they are, or in another order, or in part, or that count what is in
them.
-/

set_option autoImplicit false

namespace JsonShell.Interpreter.Utility

open Shell

/-! ## Whole texts -/

/-- A byte that cannot be seen, in a way that can. -/
def visibleByte (c : Char) : Octets :=
  let n := c.toNat
  if 128 ≤ n then 'M' :: '-' :: low (n - 128) else low n
where
  /-- A byte of the lower half. -/
  low (n : Nat) : Octets :=
    if n < 32 then ['^', Char.ofNat (n + 64)] else if n = 127 then ['^', '?'] else [Char.ofNat n]

/-- How `cat` shows a text. -/
structure Showing where
  numbers : Bool
  numbersFilled : Bool
  squeezes : Bool
  marksEnds : Bool
  marksTabs : Bool
  isVisible : Bool

/-- A byte as it is shown. -/
def Showing.byte (o : Showing) (c : Char) : Octets :=
  if c == '\t' then (if o.marksTabs then ['^', 'I'] else [c])
  else if c == '\n' || !o.isVisible then [c]
  else visibleByte c

/-- The lines of a text as they are shown, from a line number on; `afterBlank` tells that a blank
line is before them. -/
def Showing.lines (o : Showing) (number : Nat) (afterBlank : Bool) : List Octets → Octets
  | [] => []
  | line :: rest =>
    let isBlank := line == ['\n']
    if isBlank && afterBlank && o.squeezes then o.lines number true rest
    else
      let isNumbered := if o.numbersFilled then !isBlank else o.numbers
      let front := if isNumbered then padLeft 6 (Octets.natural number) ++ ['\t'] else []
      let body := line.flatMap fun c => if c == '\n' && o.marksEnds then ['$', '\n'] else o.byte c
      front ++ body ++ o.lines (if isNumbered then number + 1 else number) isBlank rest

/-- `cat`. -/
def cat : Utility := fun _ args =>
  let g : Grammar := ⟨"AbeEnstTuv",
    [("show-all", 'A'), ("number-nonblank", 'b'), ("show-ends", 'E'), ("number", 'n'),
      ("squeeze-blank", 's'), ("show-tabs", 'T'), ("show-nonprinting", 'v')]⟩
  withCall "cat" g 1 false args fun c => do
    let (texts, whole) ← textsAt "cat" c.operands
    let text := texts.flatMap Prod.snd
    let has (letters : List Char) : Bool := letters.any c.has
    let o : Showing :=
      ⟨c.has 'n', c.has 'b', c.has 's', has ['A', 'e', 'E'], has ['A', 't', 'T'],
        has ['A', 'e', 't', 'v']⟩
    let isPlain := !has ['A', 'b', 'e', 'E', 'n', 's', 't', 'T', 'v']
    write 1 (if isPlain then text else o.lines 1 false (brokenLines text))
    return statusOf whole

/-- The text of a file, or of the standard input; a file that cannot be read is told in some words
of a utility. -/
def textOrWords? (name : String) (opening reading : Octets → Octets) (path : Octets) :
    Shell (Option Octets) := do
  if isInput path then readAll? 0
  else
    match textIn (← files) path with
    | .ok text => return some text
    | .error fault =>
      let words := if fault = .isDirectory then reading path else opening path
      say name (words ++ ": ".toList ++ (faultText fault).toList)
      return none

/-- The operands, or a dash if there are none. -/
def orInput (operands : List Octets) : List Octets :=
  if operands.isEmpty then [['-']] else operands

/-- `tac`. -/
def tac : Utility := fun _ args =>
  withCall "tac" ⟨"brs:", []⟩ 1 false args fun c => do
    statusOf <$> forAll (orInput c.operands) fun path => do
      let opening (p : Octets) : Octets :=
        "failed to open ".toList ++ quoted p ++ " for reading".toList
      let reading (p : Octets) : Octets := p ++ ": read error".toList
      match ← textOrWords? "tac" opening reading path with
      | none => return false
      | some text =>
        write 1 (brokenLines text).reverse.flatten
        return true

/-- `rev`. -/
def rev : Utility := fun _ args =>
  withCall "rev" ⟨"", []⟩ 1 false args fun c => do
    let (texts, whole) ← textsAt "rev" c.operands
    for (_, text) in texts do
      let l := linesOf text
      write 1 { l with lines := l.lines.map List.reverse }.text
    return statusOf whole

/-- `tee`. -/
def tee : Utility := fun _ args =>
  withCall "tee" ⟨"aip", [("append", 'a')]⟩ 1 false args fun c => do
    let streams ← c.operands.mapM fun path => do
      match ← openPath path (if c.has 'a' then .appending else .writing) with
      | .error fault =>
        sayFault "tee" path fault
        return none
      | .ok n => return some n
    let text := (← readAll? 0).getD []
    write 1 text
    for n in streams.filterMap id do
      setDescriptor 9 (some n)
      write 9 text
    return statusOf (streams.all Option.isSome)

/-! ## Parts of texts -/

/-- A part of a text: so many lines or bytes, or all but so many. -/
structure Part where
  ofBytes : Bool
  /-- Counted from the other end: what is left out. -/
  leavesOut : Bool
  count : Nat

/-- The front of a text. -/
def Part.head (p : Part) (text : Octets) : Octets :=
  if p.ofBytes then text.take (if p.leavesOut then text.length - p.count else p.count)
  else
    let ls := brokenLines text
    (ls.take (if p.leavesOut then ls.length - p.count else p.count)).flatten

/-- The end of a text; what is left out is one less than the number from which it starts. -/
def Part.tail (p : Part) (text : Octets) : Octets :=
  if p.ofBytes then text.drop (if p.leavesOut then p.count - 1 else text.length - p.count)
  else
    let ls := brokenLines text
    (ls.drop (if p.leavesOut then p.count - 1 else ls.length - p.count)).flatten

/-- The options of a call of `head` or `tail`, with a number as the first one written out. -/
def withoutBareCount (args : List Octets) : List Octets :=
  match args with
  | ('-' :: d :: more) :: rest =>
    if d.isDigit then
      let digits := (d :: more).takeWhile Char.isDigit
      let letters := (d :: more).drop digits.length
      (if letters.contains 'c' then ['-', 'c'] else ['-', 'n']) :: digits :: rest
    else args
  | _ => args

/-- The part that options of `head` and `tail` ask for; `sign` is what asks for the opposite. -/
def partOf (sign : Char) (c : Call) : Except Octets Part :=
  match c.last? ['n', 'c'] with
  | none => .ok ⟨false, false, 10⟩
  | some letter =>
    let text := (c.value? letter).getD []
    let leavesOut := text.head? == some sign
    let body := if text.head? == some '-' || text.head? == some '+' then text.drop 1 else text
    match amount? body with
    | some n => .ok ⟨letter == 'c', leavesOut, n⟩
    | none =>
      let unit := if letter == 'c' then "bytes" else "lines"
      .error (("invalid number of " ++ unit ++ ": ").toList ++ quoted text)

/-- The line that is shown in front of the text of a file among several. -/
def heading (isFirst : Bool) (path : Octets) : Octets :=
  let name := if path = ['-'] then "standard input".toList else path
  (if isFirst then [] else ['\n']) ++ "==> ".toList ++ name ++ " <==\n".toList

/-- Shows parts of texts, which have headings if there are several. -/
def showParts (name : String) (headed : Bool) (part : Octets → Octets)
    (readInput : Shell (Option Octets)) : Bool → List Octets → Shell Bool
  | _, [] => return true
  | isFirst, path :: rest => do
    let opening (p : Octets) : Octets := "cannot open ".toList ++ quoted p ++ " for reading".toList
    let reading (p : Octets) : Octets := "error reading ".toList ++ quoted p
    let text ← if path = ['-'] then readInput else textOrWords? name opening reading path
    match text with
    | none =>
      let _ ← showParts name headed part readInput isFirst rest
      return false
    | some text =>
      if headed then write 1 (heading isFirst path)
      write 1 (part text)
      showParts name headed part readInput false rest

/-- The options that `head` and `tail` have in common. -/
def partGrammar (letters : String) : Grammar :=
  ⟨letters, [("lines", 'n'), ("bytes", 'c'), ("quiet", 'q'), ("silent", 'q'), ("verbose", 'v')]⟩

/-- Texts have headings. -/
def isHeaded (c : Call) : Bool :=
  match c.last? ['q', 'v'] with
  | some letter => letter == 'v'
  | none => 1 < c.operands.length

/-- `head`. -/
def head : Utility := fun _ args =>
  withCall "head" (partGrammar "n:c:qvz") 1 false (withoutBareCount args) fun c => do
    match partOf '-' c with
    | .error message =>
      say "head" message
      return 1
    | .ok part =>
      let readInput := readPart? fun text =>
        if part.leavesOut then text.length else (part.head text).length
      statusOf <$> showParts "head" (isHeaded c) part.head readInput true (orInput c.operands)

/-- `tail`. -/
def tail : Utility := fun _ args =>
  withCall "tail" (partGrammar "n:c:qvfFs:z") 1 false (withoutBareCount args) fun c => do
    match partOf '+' c with
    | .error message =>
      say "tail" message
      return 1
    | .ok part =>
      let part := if part.leavesOut then { part with count := max 1 part.count } else part
      statusOf <$> showParts "tail" (isHeaded c) part.tail (readAll? 0) true (orInput c.operands)

/-! ## Numbers of lines -/

/-- How lines are numbered. -/
structure Numbering where
  /-- Blank lines have numbers too. -/
  numbersBlank : Bool
  numbersFilled : Bool
  width : Nat
  separator : Octets
  step : Nat
  /-- The name of the way in which a number is set. -/
  format : Octets

/-- A number as it is set. -/
def Numbering.shown (o : Numbering) (n : Nat) : Octets :=
  let digits := Octets.natural n
  match o.format with
  | ['l', 'n'] => padRight o.width digits
  | ['r', 'z'] => List.replicate (o.width - digits.length) '0' ++ digits
  | _ => padLeft o.width digits

/-- The text of lines that are numbered from a number on. -/
def Numbering.text (o : Numbering) (n : Nat) : List Octets → Octets
  | [] => []
  | line :: rest =>
    if if line.isEmpty then o.numbersBlank else o.numbersFilled then
      o.shown n ++ o.separator ++ line ++ ['\n'] ++ o.text (n + o.step) rest
    else
      List.replicate (o.width + o.separator.length) ' ' ++ line ++ ['\n'] ++ o.text n rest

/-- `nl`. -/
def nl : Utility := fun _ args =>
  let g : Grammar := ⟨"b:d:f:h:i:l:n:ps:v:w:", [("body-numbering", 'b'), ("number-width", 'w'),
    ("number-separator", 's'), ("starting-line-number", 'v'), ("line-increment", 'i'),
    ("number-format", 'n')]⟩
  withCall "nl" g 1 false args fun c => do
    let (texts, whole) ← textsAt "nl" c.operands
    let style := (c.value? 'b').getD ['t']
    let o : Numbering :=
      ⟨style = ['a'], style = ['a'] || style = ['t'], ((c.value? 'w').bind natural?).getD 6,
        (c.value? 's').getD ['\t'], ((c.value? 'i').bind natural?).getD 1,
        (c.value? 'n').getD "rn".toList⟩
    let first := ((c.value? 'v').bind natural?).getD 1
    write 1 (o.text first (Octets.lines (texts.flatMap Prod.snd)))
    return statusOf whole

/-! ## Counting -/

/-- What `wc` counts in a text. -/
structure Counts where
  lines : Nat
  words : Nat
  bytes : Nat
  widest : Nat

/-- The width of a line: only what can be seen counts, and a tab goes to the next stop. -/
def lineWidth (line : Octets) : Nat :=
  line.foldl
    (fun n c =>
      if c == '\t' then n / 8 * 8 + 8
      else if 32 ≤ c.toNat && c.toNat < 127 then n + 1 else n)
    0

/-- What there is in a text. -/
def Counts.ofText (text : Octets) : Counts :=
  ⟨text.count '\n', (Octets.words text).length, text.length,
    (Octets.lines text).foldl (fun n line => max n (lineWidth line)) 0⟩

/-- What there is in two texts. -/
def Counts.add (a b : Counts) : Counts :=
  ⟨a.lines + b.lines, a.words + b.words, a.bytes + b.bytes, max a.widest b.widest⟩

/-- The counts that are asked for, in the order in which they are shown. -/
def Counts.chosen (n : Counts) (c : Call) : List Nat :=
  let has (letters : List Char) : Bool := letters.any c.has
  let all := !has ['l', 'w', 'c', 'm', 'L']
  (if all || has ['l'] then [n.lines] else []) ++ (if all || has ['w'] then [n.words] else []) ++
    (if has ['m'] then [n.bytes] else []) ++ (if all || has ['c'] then [n.bytes] else []) ++
    (if has ['L'] then [n.widest] else [])

/-- `wc`. -/
def wc : Utility := fun _ args =>
  let g : Grammar := ⟨"clmwL", [("bytes", 'c'), ("chars", 'm'), ("lines", 'l'), ("words", 'w'),
    ("max-line-length", 'L')]⟩
  withCall "wc" g 1 false args fun c => do
    let paths := orInput c.operands
    let seekable ← isSeekable 0
    let texts ← paths.mapM fun path => do
      return (path, ← textAt? "wc" path)
    let t ← files
    let isDirectory (path : Octets) : Bool := !isInput path && t.isDirectory (pathOf path)
    let isRegular (path : Octets) : Bool :=
      if isInput path then seekable else !isDirectory path && !"/dev/".toList.isPrefixOf path
    let found := texts.filterMap fun (path, text) =>
      match text with
      | some text => some (path, Counts.ofText text)
      | none => if isDirectory path then some (path, ⟨0, 0, 0, 0⟩) else none
    let total := found.foldl (fun n f => n.add f.2) ⟨0, 0, 0, 0⟩
    let isSingle := paths.length = 1 && (total.chosen c).length = 1
    let size := found.foldl (fun n f => if isRegular f.1 then n + f.2.bytes else n) 0
    let least := if (found.map Prod.fst).all isRegular then 1 else 7
    let width := if isSingle then 1 else max least (Octets.natural size).length
    let line (n : Counts) (label : Octets) : Octets :=
      let numbers := (n.chosen c).map fun n => padLeft width (Octets.natural n)
      [' '].intercalate numbers ++ (if label.isEmpty then [] else ' ' :: label) ++ ['\n']
    for (path, n) in found do
      write 1 (line n (if c.operands.isEmpty then [] else path))
    if 1 < paths.length then write 1 (line total "total".toList)
    return statusOf (texts.all fun (_, text) => text.isSome)

end JsonShell.Interpreter.Utility
