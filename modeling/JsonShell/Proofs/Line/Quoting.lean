import JsonShell.Proofs.Line.Word

/-!
# Quoted words are read back

A word can be written down in two ways: bare, if it has no space, or in double quotes.  A line of
words that are written so, with spaces between them and around them, is read as just these words.

Nothing has to be said about the quotes here but that a word has an even number of them however it
is written.  A space after an even number of quotes cuts the line in two (`scan_append_space`), and
so a line is read word by word.
-/

set_option autoImplicit false

namespace JsonShell

namespace Token

/-- A way to write a word down: bare or in double quotes. -/
structure Spelling where
  word : String
  quoted : Bool
deriving DecidableEq, Repr

namespace Spelling

/-- What is written. -/
def text (s : Spelling) : String :=
  if s.quoted then "\"" ++ s.word ++ "\"" else s.word

/-- The word can be written so. -/
structure IsProper (s : Spelling) : Prop where
  ne_empty : s.word ≠ ""
  no_quote : '"' ∉ s.word.toList
  no_space : s.quoted = false → ' ' ∉ s.word.toList

instance (s : Spelling) : Decidable s.IsProper :=
  decidable_of_iff
    (s.word ≠ "" ∧ '"' ∉ s.word.toList ∧ (s.quoted = false → ' ' ∉ s.word.toList))
    ⟨fun h => ⟨h.1, h.2.1, h.2.2⟩, fun h => ⟨h.1, h.2, h.3⟩⟩

variable {s : Spelling}

theorem toList_text_quoted (h : s.quoted = true) :
    s.text.toList = '"' :: (s.word.toList ++ ['"']) := by
  rw [text, if_pos h, String.toList_append, String.toList_append]
  rfl

theorem text_bare (h : s.quoted = false) : s.text = s.word := by
  rw [text, h]
  rfl

theorem IsProper.toList_word_ne_nil (h : s.IsProper) : s.word.toList ≠ [] :=
  fun hnil => h.ne_empty (String.toList_eq_nil_iff.1 hnil)

theorem IsProper.isBare (h : s.IsProper) (hquoted : s.quoted = false) : IsBare s.word.toList := by
  refine ⟨h.toList_word_ne_nil, fun c hc => ⟨?_, ?_⟩⟩
  · rintro rfl
    exact h.no_quote hc
  · rintro rfl
    exact h.no_space hquoted hc

end Spelling

/-! ## One word -/

/-- In quotes spaces are characters like all others. -/
theorem scan_quoted {w : List Char} (hw : '"' ∉ w) (word rest : List Char) :
    scan true word (w ++ '"' :: rest) = scan false (w.reverse ++ word) rest := by
  induction w generalizing word with
  | nil =>
    rw [List.nil_append, scan, if_pos rfl]
    rfl
  | cons c w ih =>
    have hquote : c ≠ '"' := (List.ne_of_not_mem_cons hw).symm
    rw [List.cons_append, scan, if_neg hquote, if_neg fun h => Bool.noConfusion h.2,
      ih (List.not_mem_of_not_mem_cons hw), List.reverse_cons, List.append_assoc]
    rfl

theorem words_quoted {w : List Char} (hne : w ≠ []) (hw : '"' ∉ w) :
    words ('"' :: (w ++ ['"'])) = [w] := by
  rw [words, scan, if_pos rfl, Bool.not_false, scan_quoted hw, scan, finish_reverse hne]

namespace Spelling

variable {s : Spelling}

theorem IsProper.words_text (h : s.IsProper) : words s.text.toList = [s.word.toList] := by
  cases hquoted : s.quoted with
  | true => rw [toList_text_quoted hquoted, words_quoted h.toList_word_ne_nil h.no_quote]
  | false => rw [text_bare hquoted, words_of_isBare (h.isBare hquoted)]

/-- No quote is left open. -/
theorem IsProper.even_quotes (h : s.IsProper) : s.text.toList.count '"' % 2 = 0 := by
  cases hquoted : s.quoted with
  | true =>
    rw [toList_text_quoted hquoted, List.count_cons_self, List.count_append,
      List.count_eq_zero.2 h.no_quote]
    rfl
  | false => rw [text_bare hquoted, (h.isBare hquoted).even_quotes]

end Spelling

/-! ## Lines -/

/-- A line of words: some spaces, and then each word and the number of spaces after it. -/
def written (before : Nat) (entries : List (Spelling × Nat)) : String :=
  String.ofList (List.replicate before ' ' ++
    entries.flatMap fun e => e.1.text.toList ++ List.replicate e.2 ' ')

/-- Spaces in front of a line are no words. -/
theorem words_spaces (n : Nat) (cs : List Char) :
    words (List.replicate n ' ' ++ cs) = words cs := by
  induction n with
  | zero => rfl
  | succ n ih =>
    have hnone : ([] : List Char).count '"' % 2 = 0 := rfl
    rw [List.replicate_succ, List.cons_append, ← ih]
    exact words_append_space_of_even hnone _

theorem words_entries {entries : List (Spelling × Nat)} (hproper : ∀ e ∈ entries, e.1.IsProper)
    (hgaps : ∀ e ∈ entries.dropLast, 0 < e.2) :
    words (entries.flatMap fun e => e.1.text.toList ++ List.replicate e.2 ' ') =
      entries.map fun e => e.1.word.toList := by
  induction entries with
  | nil => rfl
  | cons e rest ih =>
    obtain ⟨he, hproper⟩ := List.forall_mem_cons.1 hproper
    rw [List.flatMap_cons, List.map_cons]
    cases hgap : e.2 with
    | zero =>
      -- Only the last word may have no space after it.
      cases rest with
      | nil => simp [he.words_text]
      | cons next rest =>
        have hpositive : 0 < e.2 := hgaps e (by simp)
        omega
    | succ n =>
      have hrest : ∀ e ∈ rest.dropLast, 0 < e.2 := by
        cases rest with
        | nil => exact List.forall_mem_nil _
        | cons next rest => exact (List.forall_mem_cons.1 hgaps).2
      rw [List.append_assoc, List.replicate_succ, List.cons_append,
        words_append_space_of_even he.even_quotes, he.words_text, words_spaces, ih hproper hrest,
        List.singleton_append]

end Token

/-- Words with single spaces between them are read back, however each of them is written. -/
theorem tokenize_join_text {spellings : List Token.Spelling} (h : ∀ s ∈ spellings, s.IsProper) :
    tokenize (Text.join " " (spellings.map Token.Spelling.text)) =
      spellings.map Token.Spelling.word := by
  cases spellings with
  | nil => rfl
  | cons s rest =>
    obtain ⟨hs, hrest⟩ := List.forall_mem_cons.1 h
    have hwords := Token.words_append_flatMap hs.even_quotes
      (fun t ht => (hrest t ht).even_quotes) fun t ht => (hrest t ht).words_text
    rw [hs.words_text] at hwords
    rw [tokenize, List.map_cons, Text.toList_join_cons, List.flatMap_map]
    show (Token.words (s.text.toList ++ rest.flatMap fun t => ' ' :: t.text.toList)).map
      String.ofList = _
    rw [hwords]
    simp

/-- **Reading a line undoes quoting.**  Words that are written bare or in quotes, with spaces
between them and around them, are read back; and a line is read in two parts at each space that is
outside of quotes. -/
theorem tokenize_written :
    (∀ before entries, (∀ e ∈ entries, e.1.IsProper) → (∀ e ∈ entries.dropLast, 0 < e.2) →
      tokenize (Token.written before entries) = entries.map fun e => e.1.word) ∧
    ∀ a b : String, a.toList.count '"' % 2 = 0 →
      tokenize (a ++ " " ++ b) = tokenize a ++ tokenize b := by
  refine ⟨fun before entries hproper hgaps => ?_, fun a b ha => ?_⟩
  · rw [tokenize, Token.written, String.toList_ofList, Token.words_spaces,
      Token.words_entries hproper hgaps, List.map_map]
    simp
  · have hline : (a ++ " " ++ b).toList = a.toList ++ ' ' :: b.toList := by
      simp
    rw [tokenize, hline, Token.words_append_space_of_even ha, List.map_append]
    rfl

/-- Quotes within a word, an open quote after the space, and words that need their quotes. -/
theorem tokenize_written_mixed :
    let entries : List (Token.Spelling × Nat) :=
      [(⟨"a  b", true⟩, 2), (⟨"'c\t", false⟩, 1), (⟨"d", true⟩, 0)]
    (∀ e ∈ entries, e.1.IsProper) ∧ (∀ e ∈ entries.dropLast, 0 < e.2) ∧
      tokenize "   \"a  b\"  'c\t \"d\"" = ["a  b", "'c\t", "d"] ∧
      "x\"y z\"".toList.count '"' % 2 = 0 ∧
      tokenize "x\"y z\" \"u v" = tokenize "x\"y z\"" ++ tokenize "\"u v" := by
  intro entries
  have hproper : ∀ e ∈ entries, e.1.IsProper := by decide
  have hgaps : ∀ e ∈ entries.dropLast, 0 < e.2 := by decide
  have heven : "x\"y z\"".toList.count '"' % 2 = 0 := by decide
  exact ⟨hproper, hgaps, tokenize_written.1 3 entries hproper hgaps, heven,
    tokenize_written.2 "x\"y z\"" "\"u v" heven⟩

end JsonShell
