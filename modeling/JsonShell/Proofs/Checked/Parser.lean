import JsonShell.Pipeline.Head
import JsonShell.Pipeline.Stage
import JsonShell.Proofs.Checked.Scan
import JsonShell.Proofs.Loop.Quotes
import JsonShell.Proofs.Loop.Shape
import JsonShell.Proofs.Variable.Assignment

/-!
# Parsers with checked accesses

The parsers of lines and of their parts read texts by characters, so none of them can fail to read
one.  Here they are written with offsets and indices instead: the body of a loop is cut out of its
line by the offsets of two braces, what is in quotes by the offsets behind the first character and
in front of the last, and words are taken from a list by their index.  Each such access is checked.

No access fails, whatever the line is, and the results are the same (`parsers_eq_ok`).  The offsets
are right because the characters that are looked for, braces, brackets and quotes, are one byte long
each; all the others may be longer.
-/

set_option autoImplicit false

namespace JsonShell

namespace Checked

/-! ## Definitions -/

/-- The text without its first and its last byte, if it starts with `first` and ends with `last`. -/
def enclosed? (first last : Char) (s : String) : Except Breach (Option String) :=
  if 2 ≤ s.utf8ByteSize ∧ s.toList.head? = some first ∧ s.toList.getLast? = some last then do
    return some (← slice s 1 (← difference s.utf8ByteSize 1))
  else return none

/-- The text without one pair of double or single quotes around it. -/
def unquote (s : String) : Except Breach String := do
  match ← enclosed? '"' '"' s with
  | some inner => return inner
  | none => return (← enclosed? '\'' '\'' s).getD s

/-- The items of a list. -/
def listItems (expression : String) : Except Breach (List String) := do
  let s := Text.trim expression
  match ← enclosed? '[' ']' s with
  | some inner => return tokenize (Text.trim inner)
  | none =>
    if s.toList.contains '|' then
      (Text.splitString '|' s).mapM fun piece => unquote (Text.trim piece)
    else return [String.ofList (Text.stripChars isItemMargin s.toList)]

/-- The body after the brace at `opening`, if only blanks follow it. -/
def body? (line : String) (opening : Nat) : Except Breach (Option String) := do
  let rest ← sliceFrom line opening
  match ← closing .start 0 rest.toList with
  | none => return none
  | some offset =>
    let close := opening + offset
    let after ← sliceFrom line (close + 1)
    if Text.trim after ≠ "" then return none
    else return some (← slice line (opening + 1) close)

/-- The loop that a line is, if it is one. -/
def loop? (line : String) : Except Breach (Option Loop) :=
  match Loop.header? line.toList with
  | none => return none
  | some (kind, parts) => do
    let stop ← difference line.utf8ByteSize (byteSize parts.after)
    match ← body? line (← difference stop 1) with
    | none => return none
    | some body =>
      return some
        { kind := kind
          source := String.ofList (Text.trimChars parts.source)
          var := String.ofList parts.var
          body := (Body.commands body.toList).map String.ofList }

/-- The head that a segment is. -/
def head (segment : String) : Except Breach Head := do
  let text := Text.trim segment
  if text = "" then return .empty
  else
    match ← enclosed? '[' ']' text with
    | some inner =>
      return .literal (.success (.list ((tokenize (Text.trim inner)).map .string)))
    | none =>
      let inner ← unquote text
      if inner.utf8ByteSize ≠ text.utf8ByteSize then return .literal (.success (.string inner))
      else
        match Head.number? text with
        | some n => return .literal (.success (.number n))
        | none =>
          let tokens := tokenize text
          if tokens = [] then return .empty
          else
            let (name, args) ← remove tokens 0
            return .command name args

/-- The stage that a segment is, unless it is blank. -/
def stage? (segment : String) : Except Breach (Option Stage) := do
  let tokens := tokenize (Text.trim segment)
  if tokens = [] then return none
  else
    let (op, args) ← remove tokens 0
    return Stage.ofWords? (op :: args)

/-- `set NAME [=] VALUE...`. -/
def setWords (tokens : List String) : Except Breach Assignment := do
  let name ← item tokens 1
  let value ← itemsFrom tokens 2
  let value ← if (← item value 0) = "=" ∧ 1 < value.length then itemsFrom value 1 else pure value
  return ⟨Assignment.dropDollar name, Assignment.joinWords value⟩

/-- `$NAME VALUE...`. -/
def dollarWords? (first : String) (tokens : List String) : Except Breach (Option Assignment) :=
  match first.toList with
  | '$' :: name =>
    if 2 ≤ tokens.length then do
      return some ⟨String.ofList name, Assignment.joinWords (← itemsFrom tokens 1)⟩
    else return none
  | _ => return none

/-- The assignment that a line with these words is, if it is one. -/
def assignment? (line : String) (tokens : List String) : Except Breach (Option Assignment) :=
  match tokens.head? with
  | none => return none
  | some first =>
    if (first = "set" ∨ first = "let") ∧ 3 ≤ tokens.length then do
      return some (← setWords tokens)
    else
      match Assignment.equation? line with
      | some a => return some a
      | none => dollarWords? first tokens

variable {line : String}

/-! ## Texts in quotes and in brackets -/

theorem enclosed?_eq {first last : Char} (hfirst : first.utf8Size = 1) (hlast : last.utf8Size = 1)
    (s : String) :
    enclosed? first last s = .ok ((JsonShell.enclosed? first last s.toList).map String.ofList) := by
  by_cases hends : ∃ inner, s.toList = first :: (inner ++ [last])
  · obtain ⟨inner, hinner⟩ := hends
    have hsize : s.utf8ByteSize = 1 + (byteSize inner + 1) := by
      rw [← byteSize_toList, hinner, byteSize_cons, byteSize_append, byteSize_cons, hfirst, hlast]
      rfl
    have hguard : 2 ≤ s.utf8ByteSize ∧ s.toList.head? = some first ∧
        s.toList.getLast? = some last := by
      rw [hinner, ← List.cons_append, List.getLast?_concat]
      exact ⟨by omega, rfl, rfl⟩
    have hstop : difference s.utf8ByteSize 1 = .ok (1 + byteSize inner) :=
      difference_eq_ok_iff.2 (by omega)
    have hslice : slice s 1 (1 + byteSize inner) = .ok (String.ofList inner) :=
      slice_toList [first] [last] hinner (by rw [byteSize_cons, hfirst]; rfl) rfl
    rw [enclosed?, if_pos hguard, hstop, ok_bind, hslice, hinner, enclosed?_append]
    rfl
  · have hnone : JsonShell.enclosed? first last s.toList = none :=
      Option.eq_none_iff_forall_ne_some.2 fun inner h => hends ⟨inner, eq_of_enclosed? h⟩
    -- A text of one character has one byte if that character is the first one asked for.
    have hguard : ¬(2 ≤ s.utf8ByteSize ∧ s.toList.head? = some first ∧
        s.toList.getLast? = some last) := by
      rintro ⟨hsize, hhead, hend⟩
      obtain ⟨rest, hrest⟩ := List.head?_eq_some_iff.1 hhead
      by_cases hne : rest = []
      · rw [← byteSize_toList, hrest, hne, byteSize_cons, hfirst] at hsize
        exact absurd hsize (by decide)
      · rw [hrest, List.getLast?_cons_of_ne_nil hne] at hend
        obtain ⟨inner, rfl⟩ := List.getLast?_eq_some_iff.1 hend
        exact hends ⟨inner, hrest⟩
    rw [enclosed?, if_neg hguard, hnone]
    rfl

theorem unquote_eq (s : String) : unquote s = .ok (JsonShell.unquote s) := by
  rw [unquote, enclosed?_eq rfl rfl, enclosed?_eq rfl rfl, JsonShell.unquote]
  cases JsonShell.enclosed? '"' '"' s.toList with
  | some inner => rfl
  | none =>
    cases JsonShell.enclosed? '\'' '\'' s.toList with
    | some inner => rfl
    | none => rfl

/-- Something is taken off a text just if it has fewer bytes then. -/
theorem utf8ByteSize_unquote (s : String) :
    (JsonShell.unquote s).utf8ByteSize = s.utf8ByteSize ↔ JsonShell.unquote s = s := by
  refine ⟨fun h => ?_, fun h => congrArg _ h⟩
  rcases unquote_inv s with heq | ⟨q, inner, hs, hinner⟩
  · exact heq
  · rw [hinner, hs, inQuotes, String.ofList_cons, String.ofList_append, String.ofList_toList,
      String.utf8ByteSize_append, String.utf8ByteSize_append, String.utf8ByteSize_singleton] at h
    have hq := q.utf8Size_pos
    omega

theorem words_enclosed (inner : List Char) : tokenize (Text.trim (String.ofList inner)) =
    (Token.words (Text.trimChars inner)).map String.ofList := by
  rw [tokenize, Text.trim, String.toList_ofList, String.toList_ofList]

theorem listItems_eq (expression : String) :
    listItems expression = .ok (JsonShell.listItems expression) := by
  rw [listItems, JsonShell.listItems, bracketed?, enclosed?_eq rfl rfl, ok_bind]
  cases JsonShell.enclosed? '[' ']' (Text.trim expression).toList with
  | some inner => exact congrArg Except.ok (words_enclosed inner)
  | none =>
    dsimp only [Option.map_none]
    by_cases hpipe : (Text.trim expression).toList.contains '|' = true
    · rw [if_pos hpipe, if_pos hpipe]
      simp only [unquote_eq]
      exact List.mapM_pure
    · rw [if_neg hpipe, if_neg hpipe]
      rfl

/-! ## Words -/

theorem head_eq (segment : String) : head segment = .ok (Head.parse segment) := by
  rw [head, Head.parse, bracketed?]
  dsimp only
  by_cases hempty : Text.trim segment = ""
  · rw [if_pos hempty, if_pos hempty]
    rfl
  · rw [if_neg hempty, if_neg hempty, enclosed?_eq rfl rfl, ok_bind]
    cases JsonShell.enclosed? '[' ']' (Text.trim segment).toList with
    | some inner =>
      dsimp only [Option.map_some]
      rw [words_enclosed]
      rfl
    | none =>
      dsimp only [Option.map_none]
      rw [unquote_eq, ok_bind]
      by_cases hquoted : JsonShell.unquote (Text.trim segment) = Text.trim segment
      · rw [if_neg (not_not_intro ((utf8ByteSize_unquote _).2 hquoted)),
          if_neg (not_not_intro hquoted)]
        cases Head.number? (Text.trim segment) with
        | some n => rfl
        | none =>
          cases tokenize (Text.trim segment) with
          | nil => rfl
          | cons name args => rfl
      · rw [if_pos (mt (utf8ByteSize_unquote _).1 hquoted), if_pos hquoted]
        rfl

theorem stage?_eq (segment : String) : stage? segment = .ok (Stage.parse? segment) := by
  rw [stage?, Stage.parse?]
  cases tokenize (Text.trim segment) with
  | nil => rfl
  | cons op args => rfl

theorem setWords_eq (first name value : String) (more : List String) :
    setWords (first :: name :: value :: more) = .ok (Assignment.ofWords name (value :: more)) := by
  have hname : item (first :: name :: value :: more) 1 = .ok name := rfl
  have hvalue : itemsFrom (first :: name :: value :: more) 2 = .ok (value :: more) :=
    if_pos (by simp)
  have hsign : item (value :: more) 0 = .ok value := rfl
  rw [setWords, hname, ok_bind, hvalue, ok_bind, hsign, ok_bind]
  by_cases hequals : value = "="
  · subst hequals
    cases more <;> rfl
  · rw [if_neg fun h => hequals h.1, Assignment.ofWords]
    · rfl
    · rintro second rest ⟨⟩
      exact hequals rfl

theorem dollarWords?_eq (first : String) (rest : List String) :
    dollarWords? first (first :: rest) = .ok (Assignment.dollarWords? first rest) := by
  rw [dollarWords?]
  split
  · rename_i name hfirst
    simp only [Assignment.dollarWords?, hfirst]
    cases rest <;> rfl
  · rename_i hfirst
    have hnone : Assignment.dollarWords? first rest = none := by
      rw [Assignment.dollarWords?]
      split
      · rename_i name hdollar
        exact absurd hdollar (hfirst name)
      · rfl
    rw [hnone]
    rfl

theorem assignment?_eq (line : String) (tokens : List String) :
    assignment? line tokens = .ok (Assignment.ofTokens? line tokens) := by
  cases tokens with
  | nil => rfl
  | cons first rest =>
    rw [assignment?, List.head?_cons]
    dsimp only
    by_cases hset : (first = "set" ∨ first = "let") ∧ 3 ≤ (first :: rest).length
    · obtain ⟨hfirst, hlength⟩ := hset
      match rest, hlength with
      | name :: value :: more, hlength =>
        rw [if_pos ⟨hfirst, hlength⟩, setWords_eq, Assignment.ofTokens?_binder hfirst (by simp)]
        rfl
    · have hother : first = "set" ∨ first = "let" → rest.length < 2 := by
        intro hfirst
        have hlength : ¬3 ≤ (first :: rest).length := fun h => hset ⟨hfirst, h⟩
        rw [List.length_cons] at hlength
        omega
      rw [if_neg hset, Assignment.ofTokens?_eq_or hother, dollarWords?_eq]
      cases Assignment.equation? line <;> rfl

/-! ## Loops -/

/-- The body is cut out between its braces, whatever is in front of them. -/
theorem body?_eq {front cs : List Char} (hline : line.toList = front ++ '{' :: cs) :
    body? line (byteSize front) =
      .ok ((Body.close? 0 false cs).bind fun (body, after) =>
        if after.all isBlank then some (String.ofList body) else none) := by
  have hrest : sliceFrom line (byteSize front) = .ok (String.ofList ('{' :: cs)) :=
    sliceFrom_toList front hline rfl
  have hclosing : closing .start 0 ('{' :: cs) =
      .ok ((Body.close? 0 false cs).map fun found => 1 + byteSize found.1) :=
    closing_eq 0 false 1 cs
  rw [body?, hrest, ok_bind, String.toList_ofList, hclosing, ok_bind]
  cases hclose : Body.close? 0 false cs with
  | none => rfl
  | some found =>
    obtain ⟨body, after⟩ := found
    obtain ⟨rfl, -⟩ := Body.of_close? hclose
    have hend : sliceFrom line (byteSize front + (1 + byteSize body) + 1) =
        .ok (String.ofList after) := by
      refine sliceFrom_toList (front ++ '{' :: (body ++ ['}'])) ?_ ?_
      · rw [hline]
        simp
      · rw [byteSize_append, byteSize_cons, byteSize_append]
        rfl
    have hbody : slice line (byteSize front + 1) (byteSize front + (1 + byteSize body)) =
        .ok (String.ofList body) := by
      refine slice_toList (front ++ ['{']) ('}' :: after) ?_ ?_ (Nat.add_assoc _ _ _).symm
      · rw [hline]
        simp
      · rw [byteSize_append]
        rfl
    have hblank : Text.trim (String.ofList after) = "" ↔ after.all isBlank = true := by
      rw [Text.trim_eq_empty, Text.isAllBlank, String.toList_ofList]
    dsimp only [Option.map_some, Option.bind_some]
    rw [hend, ok_bind, hbody]
    by_cases hafter : after.all isBlank = true
    · rw [if_neg (not_not_intro (hblank.2 hafter)), if_pos hafter]
      rfl
    · rw [if_pos (mt hblank.1 hafter), if_neg hafter]
      rfl

theorem loop?_eq (line : String) : loop? line = .ok (Loop.parse? line) := by
  rw [loop?, Loop.parse?]
  cases hheader : Loop.header? line.toList with
  | none => rfl
  | some found =>
    obtain ⟨kind, parts⟩ := found
    obtain ⟨front, hline⟩ := Loop.exists_of_header? hheader
    have hstop :
        difference line.utf8ByteSize (byteSize parts.after) = .ok (byteSize front + 1) := by
      rw [difference_eq_ok_iff, ← byteSize_toList, hline, byteSize_append, byteSize_cons,
        ← Nat.add_assoc]
      exact Nat.add_comm _ _
    have hopening : difference (byteSize front + 1) 1 = .ok (byteSize front) :=
      difference_eq_ok_iff.2 (Nat.add_comm _ 1)
    dsimp only
    rw [hstop, ok_bind, hopening, ok_bind, body?_eq hline, ok_bind]
    cases Body.close? 0 false parts.after with
    | none => rfl
    | some found =>
      dsimp only [Option.bind_some]
      by_cases hafter : found.2.all isBlank = true
      · rw [if_pos hafter, if_pos hafter]
        dsimp only
        rw [String.toList_ofList]
        rfl
      · rw [if_neg hafter, if_neg hafter]
        rfl

/-! ## All parsers -/

/-- **No line makes an access fail**: the parsers that check all their accesses have a result for
every text, and it is the same as without checks. -/
theorem parsers_eq_ok (line : String) :
    loop? line = .ok (Loop.parse? line) ∧
      listItems line = .ok (JsonShell.listItems line) ∧
      unquote line = .ok (JsonShell.unquote line) ∧
      head line = .ok (Head.parse line) ∧
      stage? line = .ok (Stage.parse? line) ∧
      assignment? line (tokenize line) = .ok (Assignment.parse? line) :=
  ⟨loop?_eq line, listItems_eq line, unquote_eq line, head_eq line, stage?_eq line,
    assignment?_eq line (tokenize line)⟩

end Checked

end JsonShell
