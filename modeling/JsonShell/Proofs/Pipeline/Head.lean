import JsonShell.Pipeline.Head
import JsonShell.Pipeline.Stage
import JsonShell.Proofs.Decimal.Literal
import JsonShell.Proofs.Line.Quoting
import JsonShell.Proofs.Loop.Quotes
import JsonShell.Proofs.Session.Dispatch

/-!
# Heads of several words

A head is looked at as a whole before its words are read: it may be a list in brackets, a text in
quotes or a number.  Several words are no number, as there is a space in them.  They are a text in
quotes just if both the first and the last one are written in quotes, for only the two ends of the
head are looked at, and not whether they are the ends of one pair.  All other heads of several words
are the call that the same words are in a line without pipes (`Head.parse_words`).
-/

set_option autoImplicit false

namespace JsonShell

/-! ## The readings of a head -/

namespace Head

variable {text : String}

/-- A text with a space is no number. -/
theorem number?_eq_none (h : ' ' ∈ text.toList) : number? text = none := by
  have hfinite : Decimal.finite? text = none := by
    cases hread : Decimal.finite? text with
    | none => rfl
    | some x => exact absurd (Decimal.isLiteralChar_of_finite? hread h) (by decide)
  have hinteger : Numeral.integer? text = none := by
    cases hread : Numeral.integer? text with
    | none => rfl
    | some n => exact absurd (Numeral.isDigit_or_sign_of_integer? hread h) (by decide)
  rw [number?, hfinite, hinteger]
  rfl

section Reading

variable (htrim : Text.trim text = text) (hne : text ≠ "")
  (hbracket : text.toList.head? ≠ some '[')
include htrim hne hbracket

/-- What is neither in brackets nor in quotes is a number if it can be one. -/
theorem parse_eq_literal {n : Number} (hunquote : unquote text = text)
    (hnumber : number? text = some n) : parse text = .literal (.success (.number n)) := by
  rw [parse, htrim, if_neg hne, bracketed?_eq_none hbracket]
  dsimp only
  rw [if_neg (not_not_intro hunquote), hnumber]

/-- Otherwise it is a call. -/
theorem parse_eq_ofWords (hunquote : unquote text = text) (hnumber : number? text = none) :
    parse text = ofWords (tokenize text) := by
  rw [parse, htrim, if_neg hne, bracketed?_eq_none hbracket]
  dsimp only
  rw [if_neg (not_not_intro hunquote), hnumber]

end Reading

/-- What is in quotes is a text, even if there are more quotes in it. -/
theorem parse_quotes {inner : String}
    (htrim : Text.trim ("\"" ++ inner ++ "\"") = "\"" ++ inner ++ "\"") :
    parse ("\"" ++ inner ++ "\"") = .literal (.success (.string inner)) := by
  have hne : "\"" ++ inner ++ "\"" ≠ "" := by
    intro h
    have hchars := toList_quotes inner
    rw [h] at hchars
    cases hchars
  have hbracket : ("\"" ++ inner ++ "\"").toList.head? ≠ some '[' := by
    rw [toList_quotes]
    exact fun h => absurd (Option.some.inj h) (by decide)
  rw [parse, htrim, if_neg hne, bracketed?_eq_none hbracket]
  dsimp only
  rw [if_pos (unquote_quotes_ne inner), unquote_quotes]

end Head

/-! ## The ends of several words -/

namespace Token.Spelling

variable {s first last : Spelling} {middle : List Spelling}

theorem IsProper.text_ne_nil (h : s.IsProper) : s.text.toList ≠ [] := by
  cases hquoted : s.quoted with
  | true =>
    rw [toList_text_quoted hquoted]
    exact List.cons_ne_nil _ _
  | false =>
    rw [text_bare hquoted]
    exact h.toList_word_ne_nil

theorem IsProper.head?_text (h : s.IsProper) :
    s.text.toList.head? = some '"' ↔ s.quoted = true := by
  cases hquoted : s.quoted with
  | true => simp [toList_text_quoted hquoted]
  | false =>
    rw [text_bare hquoted]
    exact iff_of_false (fun hhead => h.no_quote (List.mem_of_mem_head? hhead)) Bool.false_ne_true

theorem IsProper.getLast?_text (h : s.IsProper) :
    s.text.toList.getLast? = some '"' ↔ s.quoted = true := by
  cases hquoted : s.quoted with
  | true =>
    rw [toList_text_quoted hquoted, ← List.cons_append, List.getLast?_concat]
    simp
  | false =>
    rw [text_bare hquoted]
    exact iff_of_false (fun hlast => h.no_quote (List.mem_of_mem_getLast? hlast))
      Bool.false_ne_true

theorem toList_join_text (first last : Spelling) (middle : List Spelling) :
    (Text.join " " ((first :: (middle ++ [last])).map text)).toList =
      first.text.toList ++
        (middle.flatMap (fun s => ' ' :: s.text.toList) ++ ' ' :: last.text.toList) := by
  rw [List.map_cons, Text.toList_join_cons, List.flatMap_map, List.flatMap_append,
    List.flatMap_singleton]
  rfl

/-- The first and the last character of words with spaces between them are those of the first and
the last word as they are written. -/
theorem head?_join_text (h : first.IsProper) (last : Spelling) (middle : List Spelling) :
    (Text.join " " ((first :: (middle ++ [last])).map text)).toList.head? =
      first.text.toList.head? := by
  obtain ⟨c, rest, hchars⟩ := List.exists_cons_of_ne_nil h.text_ne_nil
  rw [toList_join_text, hchars]
  rfl

theorem getLast?_join_text (h : last.IsProper) (first : Spelling) (middle : List Spelling) :
    (Text.join " " ((first :: (middle ++ [last])).map text)).toList.getLast? =
      last.text.toList.getLast? := by
  rw [toList_join_text, ← List.append_assoc, List.getLast?_append,
    List.getLast?_cons_of_ne_nil h.text_ne_nil, List.getLast?_eq_some_getLast h.text_ne_nil]
  rfl

end Token.Spelling

/-! ## Several words -/

/-- **A head of several words is a call**, the same one as in a line without pipes, unless it begins
and ends with a word in quotes.  In that case it is taken for one text in quotes. -/
theorem Head.parse_words {first last : Token.Spelling} {middle : List Token.Spelling}
    {text : String} (hproper : ∀ s ∈ first :: (middle ++ [last]), s.IsProper)
    (htext : text = Text.join " " ((first :: (middle ++ [last])).map Token.Spelling.text))
    (htrim : Text.trim text = text) (hbracket : text.toList.head? ≠ some '[')
    (hsingle : ¬(text.toList.head? = some '\'' ∧ text.toList.getLast? = some '\'')) :
    (¬(first.quoted = true ∧ last.quoted = true) →
      parse text = .command first.word ((middle ++ [last]).map Token.Spelling.word)) ∧
    (first.quoted = true ∧ last.quoted = true →
      ∃ inner, text = "\"" ++ inner ++ "\"" ∧
        parse text = .literal (.success (.string inner))) ∧
    ∀ files name args, Command.ofLine files text = .call name args →
      name = first.word ∧ args = (middle ++ [last]).map Token.Spelling.word := by
  have hfirst : first.IsProper := hproper first List.mem_cons_self
  have hlast : last.IsProper := hproper last (by simp)
  have hwords : tokenize text =
      first.word :: (middle ++ [last]).map Token.Spelling.word := by
    rw [htext, tokenize_join_text hproper, List.map_cons]
  have hspace : ' ' ∈ text.toList := by
    rw [htext, Token.Spelling.toList_join_text]
    simp
  have hne : text ≠ "" := by
    rintro rfl
    cases hspace
  have hends : text.toList.head? = some '"' ∧ text.toList.getLast? = some '"' ↔
      first.quoted = true ∧ last.quoted = true := by
    rw [htext, Token.Spelling.head?_join_text hfirst, Token.Spelling.getLast?_join_text hlast,
      hfirst.head?_text, hlast.getLast?_text]
  refine ⟨fun hquoted => ?_, fun hquoted => ?_, fun files name args hcall => ?_⟩
  · have hunquote : unquote text = text := unquote_eq_self (mt hends.1 hquoted) hsingle
    rw [parse_eq_ofWords htrim hne hbracket hunquote (number?_eq_none hspace), hwords]
    rfl
  · obtain ⟨hhead, hend⟩ := hends.2 hquoted
    have hmore : text ≠ "\"" := by
      rintro rfl
      exact absurd hspace (by decide)
    obtain ⟨inner, rfl⟩ := exists_eq_quotes hhead hend hmore
    exact ⟨inner, rfl, parse_quotes htrim⟩
  · have hcalled := (Command.of_ofLine_eq_call hcall).1
    rw [htrim, hwords] at hcalled
    obtain ⟨rfl, rfl⟩ := List.cons.inj hcalled
    exact ⟨rfl, rfl⟩

/-- Only the first word needs its quotes; brackets and single quotes are at the ends of words. -/
theorem Head.parse_words_quotedName :
    let first : Token.Spelling := ⟨"a  b", true⟩
    let middle : List Token.Spelling := [⟨"[c]", false⟩, ⟨"d e", true⟩]
    let last : Token.Spelling := ⟨"'f'", false⟩
    (∀ s ∈ first :: (middle ++ [last]), s.IsProper) ∧
      "\"a  b\" [c] \"d e\" 'f'" =
        Text.join " " ((first :: (middle ++ [last])).map Token.Spelling.text) ∧
      Text.trim "\"a  b\" [c] \"d e\" 'f'" = "\"a  b\" [c] \"d e\" 'f'" ∧
      "\"a  b\" [c] \"d e\" 'f'".toList.head? ≠ some '[' ∧
      ¬("\"a  b\" [c] \"d e\" 'f'".toList.head? = some '\'' ∧
        "\"a  b\" [c] \"d e\" 'f'".toList.getLast? = some '\'') ∧
      Head.parse "\"a  b\" [c] \"d e\" 'f'" = .command "a  b" ["[c]", "d e", "'f'"] := by
  intro first middle last
  have hproper : ∀ s ∈ first :: (middle ++ [last]), s.IsProper := by decide
  have htext : "\"a  b\" [c] \"d e\" 'f'" =
      Text.join " " ((first :: (middle ++ [last])).map Token.Spelling.text) := by decide +kernel
  have htrim : Text.trim "\"a  b\" [c] \"d e\" 'f'" = "\"a  b\" [c] \"d e\" 'f'" := by
    decide +kernel
  have hbracket : "\"a  b\" [c] \"d e\" 'f'".toList.head? ≠ some '[' := by decide
  have hsingle : ¬("\"a  b\" [c] \"d e\" 'f'".toList.head? = some '\'' ∧
      "\"a  b\" [c] \"d e\" 'f'".toList.getLast? = some '\'') := by decide
  exact ⟨hproper, htext, htrim, hbracket, hsingle,
    (Head.parse_words hproper htext htrim hbracket hsingle).1 (by decide)⟩

/-- With quotes around the first and the last word a head is no call, although the same words are
one in a line without pipes and after a pipe. -/
theorem Head.parse_bothQuoted :
    let first : Token.Spelling := ⟨"a", true⟩
    let last : Token.Spelling := ⟨"b", true⟩
    (∀ s ∈ [first, last], s.IsProper) ∧
      Text.join " " ([first, last].map Token.Spelling.text) = "\"a\" \"b\"" ∧
      Text.trim "\"a\" \"b\"" = "\"a\" \"b\"" ∧ "\"a\" \"b\"".toList.head? = some '"' ∧
      Head.parse "\"a\" \"b\"" = .literal (.success (.string "a\" \"b")) ∧
      Command.ofLine (FileTree.empty []) "\"a\" \"b\"" = .call "a" ["b"] ∧
      Stage.parse? "\"a\" \"b\"" = some (.call "a" ["b"]) := by
  decide +kernel

end JsonShell
