import JsonShell.Proofs.Line.Word

/-!
# Words lose nothing

The words of a line, put together, are the line without what only serves to tell words apart: the
quotes, and the spaces outside of quotes.  A space is outside of quotes if an even number of quotes
is before it, so this can be said without any scanning (`Token.content`).

The scanner does not count quotes; it remembers whether one is open.  That is the parity of the
quotes it has passed, and with it the induction over the rest of the line goes through
(`Token.flatten_scan`).
-/

set_option autoImplicit false

namespace JsonShell

namespace Token

/-- A character belongs to a word if it is no quote, and no space with an even number of quotes
before it. -/
def IsContent (before : List Char) (c : Char) : Prop :=
  c ≠ '"' ∧ ¬(c = ' ' ∧ before.count '"' % 2 = 0)

instance (before : List Char) (c : Char) : Decidable (IsContent before c) :=
  inferInstanceAs (Decidable (_ ∧ _))

/-- The characters that belong to words, of a text with `before` in front of it. -/
def contentAfter (before : List Char) : List Char → List Char
  | [] => []
  | c :: rest =>
    if IsContent before c then c :: contentAfter (before ++ [c]) rest
    else contentAfter (before ++ [c]) rest

/-- The characters of a text that belong to words. -/
def content (cs : List Char) : List Char :=
  contentAfter [] cs

theorem flatten_finish (word : List Char) : (finish word).flatten = word.reverse := by
  rw [finish]
  split
  · rename_i hempty
    rw [List.isEmpty_iff.1 hempty]
    rfl
  · simp

/-- The words of the rest of a line are the word that is being read and the content of the rest. -/
theorem flatten_scan {quoted : Bool} {before : List Char} (word rest : List Char)
    (hquoted : before.count '"' % 2 = quoted.toNat) :
    (scan quoted word rest).flatten = word.reverse ++ contentAfter before rest := by
  induction rest generalizing quoted before word with
  | nil => rw [scan, flatten_finish, contentAfter, List.append_nil]
  | cons c rest ih =>
    rw [scan, contentAfter]
    by_cases hquote : c = '"'
    · have hnot : ¬IsContent before c := fun h => h.1 hquote
      have hparity : (before ++ [c]).count '"' % 2 = (!quoted).toNat := by
        rw [List.count_append, hquote, List.count_singleton_self]
        rw [succ_parity_iff, Bool.not_not]
        exact hquoted
      rw [if_pos hquote, if_neg hnot, ih word hparity]
    · have hparity : (before ++ [c]).count '"' % 2 = quoted.toNat := by
        have hnone : [c].count '"' = 0 := List.count_eq_zero.2 (by simpa using Ne.symm hquote)
        rw [List.count_append, hnone, Nat.add_zero, hquoted]
      rw [if_neg hquote]
      by_cases hspace : c = ' ' ∧ quoted = false
      · obtain ⟨hc, rfl⟩ := hspace
        have hnot : ¬IsContent before c := fun h => h.2 ⟨hc, hquoted⟩
        rw [if_pos ⟨hc, rfl⟩, if_neg hnot, List.flatten_append, flatten_finish, ih [] hparity,
          List.reverse_nil, List.nil_append]
      · have hcontent : IsContent before c := by
          refine ⟨hquote, fun h => hspace ⟨h.1, ?_⟩⟩
          rw [h.2] at hquoted
          cases quoted with
          | false => rfl
          | true => cases hquoted
        rw [if_neg hspace, if_pos hcontent, ih (c :: word) hparity, List.reverse_cons,
          List.append_assoc, List.singleton_append]

end Token

/-- **Reading the words of a line loses nothing.**  No word is empty, and the words put together are
the line without its quotes and without the spaces that have an even number of quotes before
them. -/
theorem tokenize_content (line : String) :
    (∀ w ∈ tokenize line, w ≠ "") ∧
      (tokenize line).flatMap String.toList = Token.content line.toList := by
  constructor
  · intro w hw
    obtain ⟨cs, hcs, rfl⟩ := List.mem_map.1 hw
    exact mt String.ofList_eq_empty_iff.1 (Token.ne_nil_of_mem_scan hcs)
  · have hscan : (Token.words line.toList).flatten = Token.content line.toList :=
      Token.flatten_scan [] line.toList rfl
    rw [tokenize, List.flatMap_map]
    simpa [List.flatMap_def] using hscan

-- The quote is not closed, so the last spaces belong to a word.
example : Token.content "a  \"\" b\" c  ".toList = "ab c  ".toList := by decide

end JsonShell
