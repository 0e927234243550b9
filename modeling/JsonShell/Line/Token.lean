/-!
# Tokens of a line

A line is read as words.  A space ends a word, except inside double quotes; the quotes themselves
belong to no word and an unclosed quote reaches to the end of the line.  Nothing else separates
words or quotes: a tab and a single quote are ordinary characters.  No word is empty, so `""` alone
is none.
-/

set_option autoImplicit false

namespace JsonShell

namespace Token

/-- The word collected in reverse, unless it is empty. -/
def finish (word : List Char) : List (List Char) :=
  if word.isEmpty then [] else [word.reverse]

/-- The words of the rest of a line.  `quoted` tells whether a quote is open and `word` is the word
that is being read, in reverse. -/
def scan (quoted : Bool) (word : List Char) : List Char → List (List Char)
  | [] => finish word
  | c :: rest =>
    if c = '"' then scan (!quoted) word rest
    else if c = ' ' ∧ quoted = false then finish word ++ scan false [] rest
    else scan quoted (c :: word) rest

/-- The words of a line. -/
def words (cs : List Char) : List (List Char) :=
  scan false [] cs

end Token

/-- The words of a line. -/
def tokenize (line : String) : List String :=
  (Token.words line.toList).map String.ofList

/-! ## No word is empty -/

namespace Token

theorem ne_nil_of_mem_finish {w word : List Char} (h : w ∈ finish word) : w ≠ [] := by
  rw [finish] at h
  split at h
  · simp at h
  · rename_i hne
    simp only [List.mem_singleton] at h
    subst h
    simpa using hne

theorem ne_nil_of_mem_scan {quoted : Bool} {word cs w : List Char} (h : w ∈ scan quoted word cs) :
    w ≠ [] := by
  induction cs generalizing quoted word with
  | nil => exact ne_nil_of_mem_finish h
  | cons c rest ih =>
    rw [scan] at h
    split at h
    · exact ih h
    · split at h
      · rcases List.mem_append.1 h with h | h
        · exact ne_nil_of_mem_finish h
        · exact ih h
      · exact ih h

/-! ## A text without words has nothing but quotes and spaces -/

theorem finish_eq_nil {word : List Char} (h : finish word = []) : word = [] := by
  rw [finish] at h
  split at h
  · rename_i hempty
    exact List.isEmpty_iff.1 hempty
  · cases h

theorem of_scan_eq_nil {quoted : Bool} {word cs : List Char} (h : scan quoted word cs = []) :
    word = [] ∧ ∀ c ∈ cs, c = '"' ∨ c = ' ' := by
  induction cs generalizing quoted word with
  | nil => exact ⟨finish_eq_nil h, nofun⟩
  | cons c rest ih =>
    rw [scan] at h
    split at h
    · rename_i hquote
      obtain ⟨hword, hrest⟩ := ih h
      exact ⟨hword, List.forall_mem_cons.2 ⟨.inl hquote, hrest⟩⟩
    · split at h
      · rename_i hspace
        obtain ⟨hfinish, hscan⟩ := List.append_eq_nil_iff.1 h
        exact ⟨finish_eq_nil hfinish, List.forall_mem_cons.2 ⟨.inr hspace.1, (ih hscan).2⟩⟩
      · exact absurd (ih h).1 (List.cons_ne_nil c word)

end Token

example : tokenize "ab\"c d\"e f" = ["abc de", "f"] := by decide +kernel
example : tokenize "a \"\" 'b c'" = ["a", "'b", "c'"] := by decide +kernel

end JsonShell
