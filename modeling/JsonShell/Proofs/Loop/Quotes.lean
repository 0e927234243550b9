import JsonShell.Loop.Source

/-!
# Texts in quotes and in brackets

Whether a text is in quotes or in brackets is told by its first and its last character alone.  So
a text in quotes may have more quotes in it, of either kind (`unquote_inQuotes`), and one quote by
itself is not in quotes (`exists_eq_quotes`).
-/

set_option autoImplicit false

namespace JsonShell

/-! ## Neither in brackets nor in quotes -/

theorem enclosed?_eq_none {opening closing : Char} {cs : List Char}
    (h : ¬(cs.head? = some opening ∧ cs.getLast? = some closing)) :
    enclosed? opening closing cs = none := by
  cases cs with
  | nil => rfl
  | cons first rest =>
    refine if_neg fun hends => h ⟨congrArg some hends.1, ?_⟩
    rw [List.getLast?_cons, hends.2]
    rfl

variable {s : String}

theorem bracketed?_eq_none (h : s.toList.head? ≠ some '[') : bracketed? s = none := by
  rw [bracketed?, enclosed?_eq_none fun hends => h hends.1]
  rfl

theorem unquote_eq_self (hdouble : ¬(s.toList.head? = some '"' ∧ s.toList.getLast? = some '"'))
    (hsingle : ¬(s.toList.head? = some '\'' ∧ s.toList.getLast? = some '\'')) : unquote s = s := by
  rw [unquote, enclosed?_eq_none hdouble]
  dsimp only
  rw [enclosed?_eq_none hsingle]

/-! ## In quotes -/

/-- Whatever stands between the two ends is enclosed. -/
theorem enclosed?_append (opening closing : Char) (inner : List Char) :
    enclosed? opening closing (opening :: (inner ++ [closing])) = some inner := by
  rw [enclosed?, if_pos ⟨rfl, List.getLast?_concat⟩, List.dropLast_concat]

theorem eq_of_enclosed? {opening closing : Char} {cs inner : List Char}
    (h : enclosed? opening closing cs = some inner) : cs = opening :: (inner ++ [closing]) := by
  cases cs with
  | nil => cases h
  | cons first rest =>
    rw [enclosed?, Option.ite_none_right_eq_some, Option.some.injEq] at h
    obtain ⟨⟨rfl, hlast⟩, rfl⟩ := h
    obtain ⟨inner, rfl⟩ := List.getLast?_eq_some_iff.1 hlast
    rw [List.dropLast_concat]

theorem toList_quotes (inner : String) :
    ("\"" ++ inner ++ "\"").toList = '"' :: (inner.toList ++ ['"']) := by
  simp

/-- Quotes around any text are taken off, whatever stands between them. -/
theorem unquote_quotes (inner : String) : unquote ("\"" ++ inner ++ "\"") = inner := by
  rw [unquote, toList_quotes, enclosed?_append]
  exact String.ofList_toList

/-- So what is in quotes is told by its change. -/
theorem unquote_quotes_ne (inner : String) :
    unquote ("\"" ++ inner ++ "\"") ≠ "\"" ++ inner ++ "\"" := by
  rw [unquote_quotes]
  intro h
  have hlength := congrArg (fun s => s.toList.length) h
  simp only [toList_quotes, List.length_cons, List.length_append] at hlength
  omega

/-- Two quotes at the ends of a text are around something, unless they are the same one. -/
theorem exists_eq_quotes (hhead : s.toList.head? = some '"') (hlast : s.toList.getLast? = some '"')
    (hne : s ≠ "\"") : ∃ inner, s = "\"" ++ inner ++ "\"" := by
  obtain ⟨tail, htail⟩ := List.head?_eq_some_iff.1 hhead
  have htailNe : tail ≠ [] := by
    rintro rfl
    exact hne (String.toList_injective htail)
  rw [htail, List.getLast?_cons_of_ne_nil htailNe] at hlast
  obtain ⟨inner, rfl⟩ := List.getLast?_eq_some_iff.1 hlast
  refine ⟨String.ofList inner, String.toList_injective ?_⟩
  rw [htail, toList_quotes, String.toList_ofList]

/-- The text between two quotes. -/
def inQuotes (q : Char) (inner : String) : String :=
  String.ofList (q :: (inner.toList ++ [q]))

theorem toList_inQuotes (q : Char) (inner : String) :
    (inQuotes q inner).toList = q :: (inner.toList ++ [q]) :=
  String.toList_ofList

/-- **Quotes of either kind are taken off**, one pair of them and whatever stands between. -/
theorem unquote_inQuotes {q : Char} (hq : q = '"' ∨ q = '\'') (inner : String) :
    unquote (inQuotes q inner) = inner := by
  rcases hq with rfl | rfl
  · rw [unquote, toList_inQuotes, enclosed?_append]
    exact String.ofList_toList
  · have hdouble : enclosed? '"' '"' ('\'' :: (inner.toList ++ ['\''])) = none :=
      enclosed?_eq_none fun h => absurd (Option.some.inj h.1) (by decide)
    rw [unquote, toList_inQuotes, hdouble, enclosed?_append]
    exact String.ofList_toList

/-- What is taken off is a pair of quotes. -/
theorem unquote_inv (s : String) : unquote s = s ∨ ∃ q inner, s = inQuotes q inner ∧
    unquote s = inner := by
  rw [unquote]
  split
  · rename_i inner hinner
    refine .inr ⟨'"', String.ofList inner, ?_, rfl⟩
    rw [inQuotes, String.toList_ofList, ← eq_of_enclosed? hinner, String.ofList_toList]
  · split
    · rename_i inner hinner
      refine .inr ⟨'\'', String.ofList inner, ?_, rfl⟩
      rw [inQuotes, String.toList_ofList, ← eq_of_enclosed? hinner, String.ofList_toList]
    · exact .inl rfl

/-! ## In brackets -/

theorem toList_brackets (inner : String) :
    ("[" ++ inner ++ "]").toList = '[' :: (inner.toList ++ [']']) := by
  simp

/-- Between brackets there are words, whatever blanks are around them. -/
theorem bracketed?_brackets (inner : String) :
    bracketed? ("[" ++ inner ++ "]") = some (tokenize (Text.trim inner)) := by
  rw [bracketed?, toList_brackets, enclosed?_append, tokenize, Text.trim, String.toList_ofList]
  rfl

end JsonShell
