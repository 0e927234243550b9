import JsonShell.Interpreter.Utility.Basic

/-!
# Columns

Utilities that cut columns out of lines, put lines side by side, compare them, or break lines that
are too long.
-/

set_option autoImplicit false

namespace JsonShell.Interpreter.Utility

open Shell

/-! ## Cutting -/

/-- A range of places, counted from one; without an end it goes on and on. -/
structure Span where
  first : Nat
  last : Option Nat

/-- A place is in a range. -/
def Span.contains (r : Span) (n : Nat) : Bool :=
  r.first ≤ n && (match r.last with
    | some l => n ≤ l
    | none => true)

/-- The range that a text writes. -/
def Span.read? (text : Octets) : Option Span :=
  match Text.splitOn '-' text with
  | [only] => (natural? only).bind fun n => if n = 0 then none else some ⟨n, some n⟩
  | [low, high] =>
    let first := if low.isEmpty then some 1 else natural? low
    match first, high with
    | some first, [] => if low.isEmpty || first = 0 then none else some ⟨first, none⟩
    | some first, high =>
      (natural? high).bind fun last =>
        if first = 0 || last < first then none else some ⟨first, some last⟩
    | none, _ => none
  | _ => none

/-- The ranges of a list, between commas or blanks. -/
def Span.readAll? (text : Octets) : Option (List Span) :=
  let pieces := Text.splitOn ',' (text.map fun c => if Octets.isBlank c then ',' else c)
  pieces.mapM Span.read?

/-- What is wrong with a list of ranges of fields or of other places. -/
def spanComplaint (ofFields : Bool) (text : Octets) : Octets :=
  let pieces := Text.splitOn ',' (text.map fun c => if Octets.isBlank c then ',' else c)
  let wrong := (pieces.find? fun p => (Span.read? p).isNone).getD []
  let numbers := Text.splitOn '-' wrong
  if wrong = ['-'] then "invalid range with no endpoint: -".toList
  else if numbers.any fun n => natural? n == some 0 then
    (if ofFields then "fields are numbered from 1"
      else "byte/character positions are numbered from 1").toList
  else if numbers.length = 2 && numbers.all fun n => (natural? n).isSome then
    "invalid decreasing range".toList
  else
    (if ofFields then "invalid field value " else "invalid byte/character position ").toList ++
      quoted wrong

/-- What `cut` cuts out of lines. -/
structure Cutting where
  spans : List Span
  complement : Bool
  /-- Columns are fields between bytes of this kind. -/
  delimiter : Option Char
  joint : Octets
  /-- Lines without a delimiter are left out. -/
  onlyDelimited : Bool

/-- A column is wanted. -/
def Cutting.wants (o : Cutting) (n : Nat) : Bool :=
  (o.spans.any fun r => r.contains n) != o.complement

/-- The wanted ones of some columns. -/
def Cutting.choose {α : Type} (o : Cutting) (columns : List α) : List α :=
  (columns.zipIdx 1).filterMap fun (column, n) => if o.wants n then some column else none

/-- What is cut out of a line. -/
def Cutting.line (o : Cutting) (line : Octets) : Option Octets :=
  match o.delimiter with
  | none => some (o.choose line)
  | some d =>
    if line.contains d then some (o.joint.intercalate (o.choose (Text.splitOn d line)))
    else if o.onlyDelimited then none
    else some line

/-- `cut`. -/
def cut : Utility := fun _ args =>
  let g : Grammar := ⟨"b:c:d:f:nszCO:", [("bytes", 'b'), ("characters", 'c'), ("delimiter", 'd'),
    ("fields", 'f'), ("only-delimited", 's'), ("complement", 'C'), ("output-delimiter", 'O')]⟩
  withCall "cut" g 1 false args fun c => do
    match c.options.filter fun o => ['b', 'c', 'f'].contains o.1 with
    | [] => misuse "cut" "you must specify a list of bytes, characters, or fields".toList 1
    | _ :: _ :: _ => misuse "cut" "only one list may be specified".toList 1
    | [(letter, list)] =>
      match Span.readAll? list, (c.value? 'd').getD ['\t'] with
      | none, _ => misuse "cut" (spanComplaint (letter == 'f') list) 1
      | some _, _ :: _ :: _ => misuse "cut" "the delimiter must be a single character".toList 1
      | some spans, delimiter =>
        let d := delimiter.head?.getD '\x00'
        let isFields := letter == 'f'
        if !isFields && c.has 'd' then
          misuse "cut" "an input delimiter may be specified only when operating on fields".toList 1
        else
          let o : Cutting :=
            ⟨spans, c.has 'C', if isFields then some d else none,
              (c.value? 'O').getD (if isFields then [d] else []), c.has 's'⟩
          let (texts, whole) ← textsAt "cut" c.operands
          for (_, text) in texts do
            write 1 (Octets.unlines ((Octets.lines text).filterMap o.line))
          return statusOf whole

/-! ## Side by side -/

/-- The delimiters of a list, which may have escapes; an empty one is `none`. -/
def delimitersOf : Octets → List (Option Char)
  | [] => []
  | '\\' :: c :: rest =>
    (match c with
      | 'n' => some '\n'
      | 't' => some '\t'
      | '0' => none
      | c => some c) :: delimitersOf rest
  | c :: rest => some c :: delimitersOf rest

/-- Columns with delimiters between them, which come in turns. -/
def joinInTurns (delimiters : List (Option Char)) : Nat → List Octets → Octets
  | _, [] => []
  | _, [last] => last
  | n, column :: rest =>
    let between := (delimiters[n % delimiters.length]?).join
    column ++ between.toList ++ joinInTurns delimiters (n + 1) rest

/-- The lines of each operand.  Operands that are the standard input take turns at its lines. -/
def columnsOf (paths : List Octets) (texts : List Octets) : List (List Octets) :=
  let isInput (path : Octets) : Bool := path = ['-']
  let inputs := paths.countP isInput
  let shared := ((paths.zip texts).find? fun p => isInput p.1).map fun p => Octets.lines p.2
  let numbered := (paths.zip texts).foldl
    (fun (found, n) (path, text) =>
      if isInput path then
        (found ++ [((shared.getD []).zipIdx).filterMap fun (line, i) =>
          if i % inputs = n then some line else none], n + 1)
      else (found ++ [Octets.lines text], n))
    (([] : List (List Octets)), 0)
  numbered.1

/-- `paste`. -/
def paste : Utility := fun _ args =>
  withCall "paste" ⟨"d:sz", [("delimiters", 'd'), ("serial", 's')]⟩ 1 false args fun c => do
    let paths := if c.operands.isEmpty then [['-']] else c.operands
    let texts ← paths.mapM fun path => textAt? "paste" path
    if texts.any Option.isNone then return 1
    else
      let delimiters := delimitersOf ((c.value? 'd').getD ['\t'])
      let delimiters := if delimiters.isEmpty then [none] else delimiters
      let columns := columnsOf paths (texts.map fun t => t.getD [])
      let rows :=
        if c.has 's' then columns
        else
          (List.range (columns.foldl (fun n l => max n l.length) 0)).map fun i =>
            columns.map fun l => (l[i]?).getD []
      write 1 (Octets.unlines (rows.map (joinInTurns delimiters 0)))
      return 0

/-! ## Comparing -/

/-- Where a line has been found. -/
inductive Side where
  | first
  | second
  | both
deriving DecidableEq, Repr

/-- The lines of two sorted lists, with where they are. -/
def compareLines : Nat → List Octets → List Octets → List (Side × Octets)
  | 0, _, _ => []
  | _ + 1, [], bs => bs.map fun b => (.second, b)
  | _ + 1, as, [] => as.map fun a => (.first, a)
  | fuel + 1, a :: as, b :: bs =>
    if a == b then (.both, a) :: compareLines fuel as bs
    else if Octets.before a b then (.first, a) :: compareLines fuel as (b :: bs)
    else (.second, b) :: compareLines fuel (a :: as) bs

/-- `comm`. -/
def comm : Utility := fun _ args =>
  withCall "comm" ⟨"123zO:", [("output-delimiter", 'O')]⟩ 1 false args fun c => do
    match c.operands with
    | [a, b] =>
      match ← textAt? "comm" a, ← textAt? "comm" b with
      | some a, some b =>
        let as := Octets.lines a
        let bs := Octets.lines b
        let joint := (c.value? 'O').getD ['\t']
        let shown := (compareLines (as.length + bs.length + 1) as bs).filterMap fun (side, line) =>
          let indent (letters : List Char) : Octets :=
            (letters.filter fun l => !c.has l).flatMap fun _ => joint
          match side with
          | .first => if c.has '1' then none else some line
          | .second => if c.has '2' then none else some (indent ['1'] ++ line)
          | .both => if c.has '3' then none else some (indent ['1', '2'] ++ line)
        write 1 (Octets.unlines shown)
        let disorder := [(1, as), (2, bs)].filter fun p => Octets.sorted p.2 ≠ p.2
        for (n, _) in disorder do
          say "comm" ("file ".toList ++ Octets.natural n ++ " is not in sorted order".toList)
        if !disorder.isEmpty then say "comm" "input is not in sorted order".toList
        return statusOf disorder.isEmpty
      | _, _ => return 1
    | [] => misuse "comm" "missing operand".toList 1
    | [a] => misuse "comm" ("missing operand after ".toList ++ quoted a) 1
    | _ :: _ :: extra :: _ => misuse "comm" ("extra operand ".toList ++ quoted extra) 1

/-! ## Breaking lines -/

/-- The pieces of a line of at most so many bytes, which end after a blank if that is asked for. -/
def foldLine (width : Nat) (atBlanks : Bool) : Nat → Octets → List Octets
  | 0, line => [line]
  | fuel + 1, line =>
    if line.length ≤ width then [line]
    else
      let front := line.take width
      let toBlank := (front.reverse.dropWhile fun c => !Octets.isBlank c).reverse
      let piece := if atBlanks && !toBlank.isEmpty then toBlank else front
      piece :: foldLine width atBlanks fuel (line.drop piece.length)

/-- `fold`. -/
def fold : Utility := fun _ args =>
  withCall "fold" ⟨"bsw:", [("bytes", 'b'), ("spaces", 's'), ("width", 'w')]⟩ 1 false
    args fun c => do
    let (texts, whole) ← textsAt "fold" c.operands
    let width := max 1 (((c.value? 'w').bind natural?).getD 80)
    for (_, text) in texts do
      let l := linesOf text
      let pieces := l.lines.flatMap fun line => foldLine width (c.has 's') line.length line
      write 1 { l with lines := pieces }.text
    return statusOf whole

end JsonShell.Interpreter.Utility
