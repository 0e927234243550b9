import JsonShell.Line.Token
import JsonShell.Proofs.Variable.Expansion
import JsonShell.Text.Split

/-!
# Words with spaces between them

A word without spaces and quotes is read back as it is written, up to the space that ends it.  So a
line of such words with single spaces between them is read as just these words (`tokenize_join`).

The other way round, the words of a line are put together with single spaces again at the places
where the line had some.  If the line has no quotes, all that is lost are the spaces after a space
and at the end (`intercalate_scan`).
-/

set_option autoImplicit false

namespace JsonShell

namespace Token

/-- The word can be written without quotes. -/
def IsBare (w : List Char) : Prop :=
  w ≠ [] ∧ ∀ c ∈ w, c ≠ '"' ∧ c ≠ ' '

instance (w : List Char) : Decidable (IsBare w) :=
  decidable_of_iff (w ≠ [] ∧ w.all fun c => c != '"' && c != ' ')
    (and_congr_right fun _ => by simp [List.all_eq_true])

theorem IsBare.append {v w : List Char} (hv : IsBare v) (hw : ∀ c ∈ w, c ≠ '"' ∧ c ≠ ' ') :
    IsBare (v ++ w) :=
  ⟨List.append_ne_nil_of_left_ne_nil hv.1 w, fun c hc =>
    (List.mem_append.1 hc).elim (hv.2 c) (hw c)⟩

theorem scan_append {quoted : Bool} {w : List Char} (hw : ∀ c ∈ w, c ≠ '"' ∧ c ≠ ' ')
    (word rest : List Char) :
    scan quoted word (w ++ rest) = scan quoted (w.reverse ++ word) rest := by
  induction w generalizing word with
  | nil => rfl
  | cons c w ih =>
    obtain ⟨hquote, hspace⟩ := hw c List.mem_cons_self
    have hnot : ¬(c = ' ' ∧ quoted = false) := fun h => hspace h.1
    rw [List.cons_append, scan, if_neg hquote, if_neg hnot,
      ih fun d hd => hw d (List.mem_cons_of_mem c hd), List.reverse_cons, List.append_assoc]
    rfl

theorem finish_reverse {w : List Char} (hne : w ≠ []) : finish (w.reverse ++ []) = [w] := by
  rw [List.append_nil, finish, if_neg (by simpa using hne), List.reverse_reverse]

theorem words_of_isBare {w : List Char} (hw : IsBare w) : words w = [w] := by
  have hscan : scan false [] (w ++ []) = scan false (w.reverse ++ []) [] := scan_append hw.2 [] []
  rw [List.append_nil] at hscan
  rw [words, hscan, scan, finish_reverse hw.1]

/-! ## A space outside of quotes -/

/-- A quote changes whether one is open, as it changes the parity of their number. -/
theorem succ_parity_iff {n : Nat} {quoted : Bool} :
    (n + 1) % 2 = quoted.toNat ↔ n % 2 = (!quoted).toNat := by
  cases quoted with
  | false =>
    show (n + 1) % 2 = 0 ↔ n % 2 = 1
    omega
  | true =>
    show (n + 1) % 2 = 1 ↔ n % 2 = 0
    omega

/-- A space at which no quote is open cuts a line in two: what comes after it is read as if nothing
were before it. -/
theorem scan_append_space {quoted : Bool} {cs : List Char} (h : cs.count '"' % 2 = quoted.toNat)
    (word rest : List Char) :
    scan quoted word (cs ++ ' ' :: rest) = scan quoted word cs ++ words rest := by
  induction cs generalizing quoted word with
  | nil =>
    cases quoted with
    | true => exact absurd h (by decide)
    | false =>
      show scan false word (' ' :: rest) = finish word ++ words rest
      rw [scan, if_neg (by decide), if_pos ⟨rfl, rfl⟩]
      rfl
  | cons c cs ih =>
    rw [List.cons_append, scan, scan]
    split
    · rename_i hquote
      rw [hquote, List.count_cons_self] at h
      exact ih (succ_parity_iff.1 h) word
    · rename_i hquote
      rw [List.count_cons_of_ne hquote] at h
      split
      · rename_i hspace
        rw [hspace.2] at h
        rw [ih h, List.append_assoc]
      · exact ih h _

theorem words_append_space_of_even {cs : List Char} (h : cs.count '"' % 2 = 0) (rest : List Char) :
    words (cs ++ ' ' :: rest) = words cs ++ words rest := by
  have hparity : cs.count '"' % 2 = false.toNat := h
  exact scan_append_space hparity [] rest

/-- Words that are written without open quotes are read one after the other. -/
theorem words_append_flatMap {α : Type} {text word : α → List Char} {cs : List Char} {rest : List α}
    (hcs : cs.count '"' % 2 = 0) (heven : ∀ a ∈ rest, (text a).count '"' % 2 = 0)
    (hword : ∀ a ∈ rest, words (text a) = [word a]) :
    words (cs ++ rest.flatMap fun a => ' ' :: text a) = words cs ++ rest.map word := by
  induction rest generalizing cs with
  | nil => simp
  | cons a rest ih =>
    obtain ⟨ha, heven⟩ := List.forall_mem_cons.1 heven
    obtain ⟨hread, hword⟩ := List.forall_mem_cons.1 hword
    rw [List.flatMap_cons, List.cons_append, words_append_space_of_even hcs, ih ha heven hword,
      hread, List.map_cons, List.singleton_append]

theorem IsBare.even_quotes {w : List Char} (hw : IsBare w) : w.count '"' % 2 = 0 := by
  rw [List.count_eq_zero.2 fun h => (hw.2 _ h).1 rfl]

/-- A space ends a word. -/
theorem words_append_space {w : List Char} (hw : IsBare w) (rest : List Char) :
    words (w ++ ' ' :: rest) = w :: words rest := by
  rw [words_append_space_of_even hw.even_quotes, words_of_isBare hw, List.singleton_append]

theorem words_flatMap {w : List Char} {rest : List (List Char)} (hw : IsBare w)
    (hrest : ∀ v ∈ rest, IsBare v) : words (w ++ rest.flatMap fun v => ' ' :: v) = w :: rest := by
  have hread : ∀ v ∈ rest, words v = [id v] := fun v hv => words_of_isBare (hrest v hv)
  rw [words_append_flatMap hw.even_quotes (fun v hv => (hrest v hv).even_quotes) hread,
    words_of_isBare hw, List.map_id, List.singleton_append]

/-! ## Words of any line -/

theorem mem_of_mem_finish {w word : List Char} {c : Char} (h : w ∈ finish word) (hc : c ∈ w) :
    c ∈ word := by
  rw [finish] at h
  split at h
  · cases h
  · rw [List.mem_singleton.1 h] at hc
    exact List.mem_reverse.1 hc

theorem mem_of_mem_scan {quoted : Bool} {w word cs : List Char} {c : Char}
    (h : w ∈ scan quoted word cs) (hc : c ∈ w) : c ∈ word ∨ c ∈ cs := by
  induction cs generalizing quoted word with
  | nil => exact .inl (mem_of_mem_finish h hc)
  | cons d rest ih =>
    rw [scan] at h
    split at h
    · exact (ih h).imp_right (List.mem_cons_of_mem d)
    · split at h
      · rcases List.mem_append.1 h with h | h
        · exact .inl (mem_of_mem_finish h hc)
        · exact .inr (List.mem_cons_of_mem d ((ih h).resolve_left List.not_mem_nil))
      · rcases ih h with hword | hrest
        · rcases List.mem_cons.1 hword with rfl | hword
          · exact .inr List.mem_cons_self
          · exact .inl hword
        · exact .inr (List.mem_cons_of_mem d hrest)

/-! ## The words of a line with single spaces between them -/

/-- A text with at most one space in a row and none at its end. -/
def squeeze : List Char → List Char
  | [] => []
  | c :: rest =>
    if c = ' ' ∧ (rest = [] ∨ rest.head? = some ' ') then squeeze rest else c :: squeeze rest

section Squeeze

variable {cs rest word : List Char} {c : Char}

theorem squeeze_cons (h : c ≠ ' ') (rest : List Char) :
    squeeze (c :: rest) = c :: squeeze rest := by
  rw [squeeze, if_neg fun hspace => h hspace.1]

theorem squeeze_append (h : ' ' ∉ cs) (rest : List Char) :
    squeeze (cs ++ rest) = cs ++ squeeze rest := by
  induction cs with
  | nil => rfl
  | cons c cs ih =>
    rw [List.cons_append, squeeze_cons (List.ne_of_not_mem_cons h).symm,
      ih (List.not_mem_of_not_mem_cons h), List.cons_append]

/-- Of what stands before a character only spaces are dropped. -/
theorem exists_squeeze_append_cons (gap : List Char) (h : c ≠ ' ') (rest : List Char) :
    ∃ gap', gap' ⊆ gap ∧ squeeze (gap ++ c :: rest) = gap' ++ c :: squeeze rest := by
  induction gap with
  | nil => exact ⟨[], List.Subset.refl [], squeeze_cons h rest⟩
  | cons d gap ih =>
    obtain ⟨gap', hsubset, heq⟩ := ih
    rw [List.cons_append, squeeze]
    split
    · exact ⟨gap', List.subset_cons_of_subset d hsubset, heq⟩
    · exact ⟨d :: gap', List.cons_subset_cons d hsubset, by rw [heq, List.cons_append]⟩

theorem scan_ne_nil {quoted : Bool} (h : word ≠ []) (cs : List Char) : scan quoted word cs ≠ [] :=
  fun hnil => h (of_scan_eq_nil hnil).1

theorem finish_of_ne_nil (h : word ≠ []) : finish word = [word.reverse] :=
  if_neg (by simpa using h)

theorem scan_cons (hquote : c ≠ '"') (hspace : c ≠ ' ') (quoted : Bool) (word rest : List Char) :
    scan quoted word (c :: rest) = scan quoted (c :: word) rest := by
  rw [scan, if_neg hquote, if_neg fun hand => hspace hand.1]

theorem scan_space (word rest : List Char) :
    scan false word (' ' :: rest) = finish word ++ scan false [] rest := by
  rw [scan, if_neg (by decide), if_pos ⟨rfl, rfl⟩]

/-- With single spaces between them, the words of a line without quotes are the line without its
other spaces, provided that a word has been begun or begins with the line. -/
theorem intercalate_scan (hcs : '"' ∉ cs) (h : word = [] → cs ≠ [] ∧ cs.head? ≠ some ' ') :
    [' '].intercalate (scan false word cs) = word.reverse ++ squeeze cs := by
  induction cs generalizing word with
  | nil =>
    have hword : word ≠ [] := fun hnil => (h hnil).1 rfl
    rw [scan, finish_of_ne_nil hword, squeeze, List.append_nil]
    exact List.intercalate_singleton
  | cons c rest ih =>
    have hquote : c ≠ '"' := (List.ne_of_not_mem_cons hcs).symm
    have hrest := List.not_mem_of_not_mem_cons hcs
    by_cases hspace : c = ' '
    · subst hspace
      have hword : word ≠ [] := fun hnil => (h hnil).2 rfl
      rw [scan_space, finish_of_ne_nil hword, squeeze]
      by_cases hnext : rest = [] ∨ rest.head? = some ' '
      · rw [if_pos ⟨rfl, hnext⟩, ← ih hrest fun hnil => absurd hnil hword]
        rcases hnext with rfl | hnext
        · rw [scan, scan, finish_of_ne_nil hword]
          rfl
        · -- Of two spaces the first one ends the word, and the second one ends none.
          obtain ⟨tail, rfl⟩ := List.head?_eq_some_iff.1 hnext
          rw [scan_space, scan_space, finish_of_ne_nil hword]
          rfl
      · obtain ⟨hne, hhead⟩ := not_or.1 hnext
        have hbegun : scan false [] rest ≠ [] := by
          obtain ⟨d, tail, rfl⟩ := List.exists_cons_of_ne_nil hne
          rw [scan_cons (List.ne_of_not_mem_cons hrest).symm fun heq => hhead (congrArg some heq)]
          exact scan_ne_nil (List.cons_ne_nil d []) tail
        rw [if_neg fun hdrop => hnext hdrop.2, List.singleton_append,
          List.intercalate_cons_of_ne_nil hbegun, ih hrest fun _ => ⟨hne, hhead⟩]
        simp
    · rw [scan_cons hquote hspace, squeeze_cons hspace,
        ih hrest fun hnil => absurd hnil (List.cons_ne_nil c word), List.reverse_cons,
        List.append_assoc]
      rfl

end Squeeze

end Token

/-- Words have no characters but those of the line. -/
theorem mem_of_mem_tokenize {line w : String} {c : Char} (h : w ∈ tokenize line)
    (hc : c ∈ w.toList) : c ∈ line.toList := by
  obtain ⟨word, hword, rfl⟩ := List.mem_map.1 h
  rw [String.toList_ofList] at hc
  exact (Token.mem_of_mem_scan hword hc).resolve_left List.not_mem_nil

theorem IsNameChars.isBare {name : List Char} (h : IsNameChars name) : Token.IsBare name := by
  refine ⟨h.ne_nil, fun c hc => ⟨?_, ?_⟩⟩
  · rintro rfl
    exact h.not_mem (by decide) hc
  · rintro rfl
    exact h.not_mem (by decide) hc

/-- **Words with single spaces between them are read back.** -/
theorem tokenize_join {words : List String} (h : ∀ w ∈ words, Token.IsBare w.toList) :
    tokenize (Text.join " " words) = words := by
  cases words with
  | nil => rfl
  | cons w rest =>
    obtain ⟨hw, hrest⟩ := List.forall_mem_cons.1 h
    have hwords := Token.words_flatMap hw (List.forall_mem_map.2 hrest)
    rw [List.flatMap_map] at hwords
    rw [tokenize, Text.toList_join_cons]
    show (Token.words (w.toList ++ rest.flatMap fun v => ' ' :: v.toList)).map String.ofList = _
    rw [hwords]
    simp

end JsonShell
