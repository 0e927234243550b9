import JsonShell.Proofs.Variable.Word
import JsonShell.Variable.Assignment

/-!
# How assignments are read

Each way to write an assignment has a lemma that reads it.  Words after `set` or `let` are read as
words (`Assignment.parse?_binder`), and so are those after a name with a dollar sign
(`Assignment.parse?_dollar`); an equation is read as characters, with or without `export` in front
(`Assignment.equation?_append`, `Assignment.equation?_export`).  From these all spellings of an
assignment are read alike (`Assignment.parse?_spelling`), although a variable may be called `export`
and a value may look like a reference or like a further equation.

The other way round, an equation binds a name, while the other spellings take the word that is
there, whatever it is (`Assignment.isName_or_takesWord`).
-/

set_option autoImplicit false

namespace JsonShell

/-! ## A word and what follows it -/

theorem IsNameChars.isBlank_head {name : List Char} (h : IsNameChars name) (rest : List Char) :
    ∀ c, (name ++ rest).head? = some c → isBlank c = false := by
  obtain ⟨d, tail, rfl, hd, -⟩ := h
  rintro c ⟨⟩
  have hbounds := toNat_of_isNameStart hd
  exact isBlank_eq_false (by omega) (by omega)

/-- Characters of names that a text starts with are a part of the word in front. -/
theorem exists_eq_append_of_prefix {w name rest : List Char} (hw : ∀ c ∈ w, isNameChar c = true)
    (hrest : EndsName rest) (h : w <+: name ++ rest) : ∃ more, name = w ++ more := by
  induction w generalizing name with
  | nil => exact ⟨name, rfl⟩
  | cons c w ih =>
    obtain ⟨hc, hw⟩ := List.forall_mem_cons.1 hw
    cases name with
    | nil =>
      obtain ⟨tail, htail⟩ := h
      have hend : isNameChar c = false := hrest c (by rw [← List.nil_append rest, ← htail]; rfl)
      rw [hc] at hend
      cases hend
    | cons d name =>
      obtain ⟨rfl, hrest⟩ := List.cons_prefix_cons.1 h
      obtain ⟨more, rfl⟩ := ih hw hrest
      exact ⟨more, rfl⟩

/-- After only a part of a word there is no blank. -/
theorem IsNameChars.not_isBlank_after_part {w name rest : List Char} (hname : IsNameChars name)
    (hw : IsNameChars w) (hne : name ≠ w) (hrest : EndsName rest) (h : w <+: name ++ rest) :
    ∃ c tail, (name ++ rest).drop w.length = c :: tail ∧ isBlank c = false := by
  obtain ⟨more, rfl⟩ := exists_eq_append_of_prefix hw.isNameChar hrest h
  have hmore : more ≠ [] := fun hnil => hne (by rw [hnil, List.append_nil])
  obtain ⟨c, tail, rfl⟩ := List.exists_cons_of_ne_nil hmore
  refine ⟨c, tail ++ rest, ?_, ?_⟩
  · rw [List.append_assoc, List.drop_left]
    rfl
  · exact isBlank_of_isNameChar
      (hname.isNameChar c (List.mem_append_right w List.mem_cons_self))

/-- What may follow a word and a space without binding that word to a value, or binding a name if
the word is `export`. -/
def BindsNothing (rest : List Char) : Prop :=
  ∀ c, rest.head? = some c → isBlank c = false ∧ c ≠ '=' ∧ isNameStart c = false

theorem BindsNothing.append {w : List Char} (h : BindsNothing w) (hne : w ≠ [])
    (rest : List Char) : BindsNothing (w ++ rest) := by
  obtain ⟨d, tail, rfl⟩ := List.exists_cons_of_ne_nil hne
  exact fun c hc => h c hc

namespace Assignment

variable {name before after value rest tail : List Char} {line : String}

/-! ## Equations -/

theorem afterExport?_of_ne (hname : IsNameChars name) (hrest : EndsName rest)
    (hne : name ≠ "export".toList) : afterExport? (name ++ rest) = none := by
  rw [afterExport?]
  split
  · rename_i hprefix
    obtain ⟨c, tail, hdrop, hblank⟩ :=
      hname.not_isBlank_after_part (by decide) hne hrest (List.isPrefixOf_iff_prefix.1 hprefix)
    rw [hdrop]
    dsimp only
    rw [hblank]
    rfl
  · rfl

theorem afterExport?_export (c : Char) (rest : List Char) :
    afterExport? ("export".toList ++ c :: rest) =
      if isBlank c then some (rest.dropWhile isBlank) else none := by
  rw [afterExport?, if_pos (List.isPrefixOf_iff_prefix.2 (List.prefix_append _ _)), List.drop_left]

theorem binding?_of_leadingName {cs : List Char} (h : Reference.leadingName cs = []) :
    binding? cs = none := by
  rw [binding?, h]
  rfl

theorem binding?_eq_none (hname : IsNameChars name) (hrest : BindsNothing rest) :
    binding? (name ++ ' ' :: rest) = none := by
  have hends : EndsName (' ' :: rest) := endsName_cons (by decide) rest
  have hblanks : (' ' :: rest).dropWhile isBlank = rest := by
    rw [List.dropWhile_cons_of_pos (by decide)]
    exact Text.dropWhile_eq_self fun c hc => (hrest c hc).1
  rw [binding?, Reference.leadingName_append hname hends, List.drop_left, hblanks,
    if_neg (by simpa using hname.ne_nil)]
  split
  · rename_i value hvalue
    exact absurd rfl (hrest '=' (by rfl)).2.1
  · rfl

theorem equation?_eq_none (hline : line.toList = name ++ ' ' :: rest) (hname : IsNameChars name)
    (hrest : BindsNothing rest) : equation? line = none := by
  have hends : EndsName (' ' :: rest) := endsName_cons (by decide) rest
  have hexport : (afterExport? (name ++ ' ' :: rest)).bind binding? = none := by
    by_cases heq : name = "export".toList
    · -- The word is `export`, and what follows starts with no name.
      have hblanks : rest.dropWhile isBlank = rest :=
        Text.dropWhile_eq_self fun c hc => (hrest c hc).1
      have hleading : Reference.leadingName rest = [] := by
        cases rest with
        | nil => rfl
        | cons c rest =>
          rw [Reference.leadingName, if_neg (by rw [(hrest c rfl).2.2]; exact Bool.false_ne_true)]
      rw [heq, afterExport?_export, if_pos (by decide), hblanks, Option.bind_some,
        binding?_of_leadingName hleading]
    · rw [afterExport?_of_ne hname hends heq]
      rfl
  rw [equation?, hline, Text.dropWhile_eq_self (hname.isBlank_head _)]
  dsimp only
  rw [hexport, binding?_eq_none hname hrest]
  rfl

/-- The text is read as a value after an equals sign, as it is. -/
structure IsValue (value : List Char) : Prop where
  ne_nil : value ≠ []
  oneLine : '\n' ∉ value
  trimmed : Text.trimChars value = value

theorem IsValue.dropWhile_eq (h : IsValue value) : value.dropWhile isBlank = value := by
  refine Text.dropWhile_eq_self fun c hc => ?_
  have hhead : (Text.trimChars value).head? = some c := by rw [h.trimmed, hc]
  exact Text.not_of_head?_stripChars hhead

theorem valueAfter?_append (hafter : ∀ c ∈ after, isBlank c = true) (hvalue : IsValue value) :
    valueAfter? (after ++ value) = some value := by
  have hempty : ¬value.isEmpty = true := by simpa using hvalue.ne_nil
  have hline : ¬value.contains '\n' = true := by simpa using hvalue.oneLine
  rw [valueAfter?, List.dropWhile_append_of_pos hafter, hvalue.dropWhile_eq, if_neg hempty,
    if_neg hline, hvalue.trimmed]

theorem endsName_equals (hbefore : ∀ c ∈ before, isBlank c = true) :
    EndsName (before ++ '=' :: tail) := by
  intro c hc
  cases before with
  | nil => exact endsName_cons (by decide) tail c hc
  | cons d rest =>
    obtain rfl := Option.some.inj hc
    refine Bool.eq_false_iff.2 fun hchar => ?_
    have hblank := hbefore d List.mem_cons_self
    rw [isBlank_of_isNameChar hchar] at hblank
    cases hblank

theorem binding?_append (hname : IsNameChars name) (hbefore : ∀ c ∈ before, isBlank c = true)
    (hafter : ∀ c ∈ after, isBlank c = true) (hvalue : IsValue value) :
    binding? (name ++ (before ++ '=' :: (after ++ value))) = some (name, value) := by
  rw [binding?, Reference.leadingName_append hname (endsName_equals hbefore), List.drop_left,
    List.dropWhile_append_of_pos hbefore, List.dropWhile_cons_of_neg (by decide),
    if_neg (by simpa using hname.ne_nil)]
  show (valueAfter? (after ++ value)).map (fun value => (name, value)) = _
  rw [valueAfter?_append hafter hvalue]
  rfl

/-- An equation is not one after the word `export`, even if its variable is called so. -/
theorem bind_afterExport?_eq_none (hname : IsNameChars name)
    (hbefore : ∀ c ∈ before, isBlank c = true) :
    (afterExport? (name ++ (before ++ '=' :: tail))).bind binding? = none := by
  by_cases heq : name = "export".toList
  · subst heq
    cases before with
    | nil =>
      rw [List.nil_append, afterExport?_export, if_neg (by decide)]
      rfl
    | cons c before =>
      obtain ⟨hc, hbefore⟩ := List.forall_mem_cons.1 hbefore
      rw [List.cons_append, afterExport?_export, if_pos hc, Option.bind_some,
        List.dropWhile_append_of_pos hbefore, List.dropWhile_cons_of_neg (by decide),
        binding?_of_leadingName rfl]
  · rw [afterExport?_of_ne hname (endsName_equals hbefore) heq]
    rfl

/-- **An equation binds the name in front of its sign.** -/
theorem equation?_append {name value : String}
    (hline : line.toList = name.toList ++ (before ++ '=' :: (after ++ value.toList)))
    (hname : IsNameChars name.toList) (hbefore : ∀ c ∈ before, isBlank c = true)
    (hafter : ∀ c ∈ after, isBlank c = true) (hvalue : IsValue value.toList) :
    equation? line = some ⟨name, value⟩ := by
  rw [equation?, hline, Text.dropWhile_eq_self (hname.isBlank_head _)]
  dsimp only
  rw [bind_afterExport?_eq_none hname hbefore, binding?_append hname hbefore hafter hvalue]
  simp only [Option.map_some, String.ofList_toList]

/-- **It does so after the word `export`.** -/
theorem equation?_export {name value : String}
    (hline : line.toList =
      "export".toList ++ ' ' :: (name.toList ++ (before ++ '=' :: (after ++ value.toList))))
    (hname : IsNameChars name.toList) (hbefore : ∀ c ∈ before, isBlank c = true)
    (hafter : ∀ c ∈ after, isBlank c = true) (hvalue : IsValue value.toList) :
    equation? line = some ⟨name, value⟩ := by
  have hexport : IsNameChars "export".toList := by decide
  rw [equation?, hline, Text.dropWhile_eq_self (hexport.isBlank_head _)]
  dsimp only
  rw [afterExport?_export, if_pos (by decide), Text.dropWhile_eq_self (hname.isBlank_head _),
    Option.bind_some, binding?_append hname hbefore hafter hvalue]
  simp only [Option.map_some, String.ofList_toList]

/-- No equation starts with a dollar sign. -/
theorem equation?_dollar (hline : line.toList.head? = some '$') : equation? line = none := by
  obtain ⟨tail, hchars⟩ := List.head?_eq_some_iff.1 hline
  rw [equation?, hchars, List.dropWhile_cons_of_neg (by decide)]
  dsimp only
  rw [binding?_of_leadingName rfl]
  rfl

/-! ## Words -/

section Words

variable {first word name : String} {rest words tokens : List String}

theorem toList_dollar (name : String) : ("$" ++ name).toList = '$' :: name.toList :=
  String.toList_append

theorem dropDollar_dollar (name : String) : dropDollar ("$" ++ name) = name := by
  rw [dropDollar, toList_dollar]
  exact String.ofList_toList

theorem dropDollar_of_isNameChars (hname : IsNameChars name.toList) : dropDollar name = name := by
  obtain ⟨c, tail, hchars, hc, -⟩ := hname
  rw [dropDollar, hchars]
  split
  · rename_i heq
    cases heq
    exact absurd hc (by decide)
  · rfl

theorem ofWords_equals (word : String) (hwords : words ≠ []) :
    ofWords word ("=" :: words) = ⟨dropDollar word, joinWords words⟩ := by
  obtain ⟨second, more, rfl⟩ := List.exists_cons_of_ne_nil hwords
  rfl

theorem ofWords_of_ne (word : String) (hwords : words.head? ≠ some "=") :
    ofWords word words = ⟨dropDollar word, joinWords words⟩ := by
  have hmatch : ∀ second more, words = "=" :: second :: more → False := by
    rintro second more rfl
    exact hwords rfl
  rw [ofWords]
  exact hmatch

theorem dollarWords?_dollar (name : String) (hrest : rest ≠ []) :
    dollarWords? ("$" ++ name) rest = some ⟨name, joinWords rest⟩ := by
  have hempty : ¬rest.isEmpty = true := by simpa using hrest
  simp only [dollarWords?, toList_dollar, if_neg hempty, String.ofList_toList]

theorem dollarWords?_inv {a : Assignment} (h : dollarWords? first rest = some a) :
    first = "$" ++ a.name ∧ rest ≠ [] ∧ a.value = joinWords rest := by
  rw [dollarWords?] at h
  split at h
  · rename_i name hfirst
    split at h
    · cases h
    · rename_i hempty
      obtain rfl := Option.some.inj h
      refine ⟨String.toList_injective ?_, by simpa using hempty, rfl⟩
      rw [hfirst, toList_dollar, String.toList_ofList]
  · cases h

theorem dollarWords?_of_isNameChars (hfirst : IsNameChars first.toList) :
    dollarWords? first rest = none := by
  cases h : dollarWords? first rest with
  | none => rfl
  | some a =>
    obtain ⟨rfl, -⟩ := dollarWords?_inv h
    obtain ⟨c, tail, hchars, hc, -⟩ := hfirst
    rw [toList_dollar] at hchars
    cases hchars
    exact absurd hc (by decide)

theorem ofTokens?_binder (hfirst : first = "set" ∨ first = "let") (hwords : words ≠ []) :
    ofTokens? line (first :: word :: words) = some (ofWords word words) := by
  obtain ⟨second, more, rfl⟩ := List.exists_cons_of_ne_nil hwords
  exact if_pos hfirst

theorem ofTokens?_eq_or (h : first = "set" ∨ first = "let" → rest.length < 2) :
    ofTokens? line (first :: rest) = (equation? line).or (dollarWords? first rest) := by
  rcases rest with _ | ⟨second, _ | ⟨third, more⟩⟩
  · simp only [ofTokens?]
    cases equation? line <;> rfl
  · simp only [ofTokens?]
    cases equation? line <;> rfl
  · have hnot : ¬(first = "set" ∨ first = "let") := fun hfirst =>
      absurd (h hfirst) (Nat.not_lt.2 (Nat.le_add_left 2 more.length))
    simp only [ofTokens?, if_neg hnot]
    cases equation? line <;> rfl

theorem ofTokens?_of_ne (hset : first ≠ "set") (hlet : first ≠ "let") :
    ofTokens? line (first :: rest) = (equation? line).or (dollarWords? first rest) :=
  ofTokens?_eq_or fun hfirst => absurd hfirst (not_or.2 ⟨hset, hlet⟩)

/-- **A word and a space start no assignment**, unless they say so or what follows binds a name. -/
theorem parse?_eq_none {name rest : List Char} (hline : line.toList = name ++ ' ' :: rest)
    (hname : IsNameChars name) (hset : name ≠ "set".toList) (hlet : name ≠ "let".toList)
    (hrest : BindsNothing rest) : parse? line = none := by
  have hwords : tokenize line = String.ofList name :: (Token.words rest).map String.ofList := by
    rw [tokenize, hline, Token.words_append_space hname.isBare, List.map_cons]
  have hne : ∀ word : String, name ≠ word.toList → String.ofList name ≠ word := by
    rintro word hword rfl
    exact hword (String.toList_ofList).symm
  have hfirst : IsNameChars (String.ofList name).toList := by rwa [String.toList_ofList]
  rw [parse?, hwords, ofTokens?_of_ne (hne "set" hset) (hne "let" hlet),
    equation?_eq_none hline hname hrest, dollarWords?_of_isNameChars hfirst]
  rfl

end Words

/-! ## Lines of words -/

section Line

variable {first word name : String} {words tokens : List String}

theorem joinWords_cons (word : String) (hwords : words ≠ []) :
    joinWords (word :: words) = word ++ " " ++ joinWords words := by
  obtain ⟨second, more, rfl⟩ := List.exists_cons_of_ne_nil hwords
  exact String.intercalate_cons_cons

theorem toList_joinWords_cons (word : String) (words : List String) :
    (joinWords (word :: words)).toList =
      word.toList ++ (words.map String.toList).flatMap fun w => ' ' :: w := by
  rw [joinWords, Text.toList_join_cons, List.flatMap_map]
  rfl

/-- What is put in front of words is a part of the first one. -/
theorem append_joinWords (front word : String) (words : List String) :
    front ++ joinWords (word :: words) = joinWords ((front ++ word) :: words) := by
  refine String.toList_injective ?_
  rw [String.toList_append, toList_joinWords_cons, toList_joinWords_cons, String.toList_append,
    List.append_assoc]

/-- An equals sign with spaces around it is a word of its own. -/
theorem append_equals_joinWords (front : String) (hwords : words ≠ []) :
    front ++ " = " ++ joinWords words = front ++ " " ++ joinWords ("=" :: words) := by
  rw [joinWords_cons _ hwords]
  refine String.toList_injective ?_
  simp

theorem isValue_joinWords (hne : words ≠ []) (hwords : ∀ w ∈ words, IsWordValue w.toList) :
    IsValue (joinWords words).toList := by
  obtain ⟨word, more, rfl⟩ := List.exists_cons_of_ne_nil hne
  obtain ⟨hword, hmore⟩ := List.forall_mem_cons.1 hwords
  obtain ⟨c, tail, hchars⟩ := List.exists_cons_of_ne_nil hword.1
  have hlast := isBlank_getLast_words hword (List.forall_mem_map.2 hmore)
  have hbreak : ∀ w : List Char, IsWordValue w → '\n' ∉ w := fun w hw hmem =>
    absurd (hw.2 _ hmem).1 (by decide)
  rw [toList_joinWords_cons]
  refine ⟨List.append_ne_nil_of_left_ne_nil hword.1 _, ?_, Text.stripChars_eq_self ?_ hlast⟩
  · rw [List.mem_append, List.mem_flatMap]
    rintro (hmem | ⟨w, hw, hmem⟩)
    · exact hbreak _ hword hmem
    · obtain ⟨v, hv, rfl⟩ := List.mem_map.1 hw
      exact hbreak _ (hmore v hv) ((List.mem_cons.1 hmem).resolve_left (by decide))
  · intro d hd
    rw [hchars] at hd
    cases hd
    exact (hword.2 c (by rw [hchars]; exact List.mem_cons_self)).1

theorem isBare_dollar (hname : IsNameChars name.toList) : Token.IsBare ("$" ++ name).toList := by
  have hdollar : Token.IsBare ['$'] := by decide
  rw [toList_dollar]
  exact hdollar.append hname.isBare.2

theorem isBare_equals (hname : IsNameChars name.toList) (hword : Token.IsBare word.toList) :
    Token.IsBare (name ++ "=" ++ word).toList := by
  have hsign : Token.IsBare "=".toList := by decide
  rw [String.toList_append, String.toList_append]
  exact (hname.isBare.append hsign.2).append hword.2

theorem parse?_joinWords (h : ∀ t ∈ tokens, Token.IsBare t.toList) :
    parse? (joinWords tokens) = ofTokens? (joinWords tokens) tokens := by
  rw [parse?, joinWords, tokenize_join h]

/-- After `set` and `let` a name and a value are read as words. -/
theorem parse?_binder (hfirst : first = "set" ∨ first = "let") (hword : Token.IsBare word.toList)
    (hne : words ≠ []) (hwords : ∀ w ∈ words, Token.IsBare w.toList) :
    parse? (first ++ " " ++ word ++ " " ++ joinWords words) = some (ofWords word words) := by
  have hbare : Token.IsBare first.toList := by
    rcases hfirst with rfl | rfl <;> decide
  have htokens : ∀ t ∈ first :: word :: words, Token.IsBare t.toList :=
    List.forall_mem_cons.2 ⟨hbare, List.forall_mem_cons.2 ⟨hword, hwords⟩⟩
  have hline : joinWords (first :: word :: words) =
      first ++ " " ++ word ++ " " ++ joinWords words := by
    rw [joinWords_cons _ (List.cons_ne_nil _ _), joinWords_cons _ hne]
    simp only [String.append_assoc]
  rw [← hline, parse?_joinWords htokens, ofTokens?_binder hfirst hne]

/-- Words after a name with a dollar sign are its value. -/
theorem parse?_dollar (hname : IsNameChars name.toList) (hne : words ≠ [])
    (hwords : ∀ w ∈ words, Token.IsBare w.toList) :
    parse? ("$" ++ name ++ " " ++ joinWords words) = some ⟨name, joinWords words⟩ := by
  have htokens : ∀ t ∈ ("$" ++ name) :: words, Token.IsBare t.toList :=
    List.forall_mem_cons.2 ⟨isBare_dollar hname, hwords⟩
  have hneq : ∀ other : String, '$' ∉ other.toList → "$" ++ name ≠ other := by
    rintro other hother rfl
    exact hother (by rw [toList_dollar]; exact List.mem_cons_self)
  have hnone : equation? (joinWords (("$" ++ name) :: words)) = none := by
    refine equation?_dollar ?_
    rw [toList_joinWords_cons, toList_dollar]
    rfl
  rw [← joinWords_cons _ hne, parse?_joinWords htokens,
    ofTokens?_of_ne (hneq "set" (by decide)) (hneq "let" (by decide)), hnone,
    dollarWords?_dollar name hne]
  rfl

theorem parse?_of_equation? {a : Assignment} (hset : first ≠ "set") (hlet : first ≠ "let")
    (htokens : ∀ t ∈ first :: tokens, Token.IsBare t.toList)
    (ha : equation? (joinWords (first :: tokens)) = some a) :
    parse? (joinWords (first :: tokens)) = some a := by
  rw [parse?_joinWords htokens, ofTokens?_of_ne hset hlet, ha]
  rfl

end Line

/-! ## Equations of words -/

section Equation

variable {name : String} {words : List String} (hname : IsNameChars name.toList)
  (hne : words ≠ []) (hwords : ∀ w ∈ words, IsWordValue w.toList)
include hname hne hwords

theorem parse?_equals :
    parse? (name ++ "=" ++ joinWords words) = some ⟨name, joinWords words⟩ := by
  have hchars : (name ++ "=" ++ joinWords words).toList =
      name.toList ++ ([] ++ '=' :: ([] ++ (joinWords words).toList)) := by
    simp
  have hequation := equation?_append hchars hname (List.forall_mem_nil _) (List.forall_mem_nil _)
    (isValue_joinWords hne hwords)
  obtain ⟨word, more, rfl⟩ := List.exists_cons_of_ne_nil hne
  obtain ⟨hword, hmore⟩ := List.forall_mem_cons.1 hwords
  have htokens : ∀ t ∈ (name ++ "=" ++ word) :: more, Token.IsBare t.toList :=
    List.forall_mem_cons.2 ⟨isBare_equals hname hword.isBare, fun w hw => (hmore w hw).isBare⟩
  have hneq : ∀ other : String, '=' ∉ other.toList → name ++ "=" ++ word ≠ other := by
    rintro other hother rfl
    exact hother (by simp)
  rw [append_joinWords] at hequation ⊢
  exact parse?_of_equation? (hneq "set" (by decide)) (hneq "let" (by decide)) htokens hequation

theorem parse?_spacedEquals (hset : name ≠ "set") (hlet : name ≠ "let") :
    parse? (name ++ " = " ++ joinWords words) = some ⟨name, joinWords words⟩ := by
  have hchars : (name ++ " = " ++ joinWords words).toList =
      name.toList ++ ([' '] ++ '=' :: ([' '] ++ (joinWords words).toList)) := by
    simp
  have hspace : ∀ c ∈ [' '], isBlank c = true := List.forall_mem_singleton.2 (by decide)
  have hequation := equation?_append hchars hname hspace hspace (isValue_joinWords hne hwords)
  have htokens : ∀ t ∈ name :: "=" :: words, Token.IsBare t.toList :=
    List.forall_mem_cons.2 ⟨hname.isBare,
      List.forall_mem_cons.2 ⟨by decide, fun w hw => (hwords w hw).isBare⟩⟩
  rw [append_equals_joinWords name hne, ← joinWords_cons name (List.cons_ne_nil _ _)]
    at hequation ⊢
  exact parse?_of_equation? hset hlet htokens hequation

theorem parse?_export :
    parse? ("export " ++ name ++ "=" ++ joinWords words) = some ⟨name, joinWords words⟩ := by
  have hchars : ("export " ++ name ++ "=" ++ joinWords words).toList =
      "export".toList ++ ' ' ::
        (name.toList ++ ([] ++ '=' :: ([] ++ (joinWords words).toList))) := by
    simp
  have hequation := equation?_export hchars hname (List.forall_mem_nil _) (List.forall_mem_nil _)
    (isValue_joinWords hne hwords)
  obtain ⟨word, more, rfl⟩ := List.exists_cons_of_ne_nil hne
  obtain ⟨hword, hmore⟩ := List.forall_mem_cons.1 hwords
  have htokens : ∀ t ∈ "export" :: (name ++ "=" ++ word) :: more, Token.IsBare t.toList :=
    List.forall_mem_cons.2 ⟨by decide, List.forall_mem_cons.2
      ⟨isBare_equals hname hword.isBare, fun w hw => (hmore w hw).isBare⟩⟩
  have hline : "export " ++ name ++ "=" ++ joinWords (word :: more) =
      joinWords ("export" :: (name ++ "=" ++ word) :: more) := by
    rw [joinWords_cons _ (List.cons_ne_nil _ _), ← append_joinWords]
    simp only [← String.append_assoc]
    rfl
  rw [hline] at hequation ⊢
  exact parse?_of_equation? (by decide) (by decide) htokens hequation

end Equation

/-! ## All spellings -/

/-- The lines that bind a variable to a value. -/
def spellings (name value : String) : List String :=
  ["set " ++ name ++ " " ++ value,
    "let " ++ name ++ " " ++ value,
    "set " ++ name ++ " = " ++ value,
    "let $" ++ name ++ " = " ++ value,
    name ++ "=" ++ value,
    name ++ " = " ++ value,
    "export " ++ name ++ "=" ++ value,
    "$" ++ name ++ " " ++ value]

/-- **All spellings of an assignment are read alike**, whatever the name and the words of the
value. -/
theorem parse?_spelling {name : String} {words : List String} (hname : isName name = true)
    (hset : name ≠ "set") (hlet : name ≠ "let") (hne : words ≠ [])
    (hwords : ∀ w ∈ words, IsWordValue w.toList) (hequals : words.head? ≠ some "=")
    {line : String} (hline : line ∈ spellings name (joinWords words)) :
    parse? line = some ⟨name, joinWords words⟩ := by
  have hchars := isNameChars_of_isName hname
  have hbare : ∀ w ∈ words, Token.IsBare w.toList := fun w hw => (hwords w hw).isBare
  have hsigned : ∀ w ∈ "=" :: words, Token.IsBare w.toList :=
    List.forall_mem_cons.2 ⟨by decide, hbare⟩
  simp only [spellings, List.mem_cons, List.not_mem_nil, or_false] at hline
  rcases hline with rfl | rfl | rfl | rfl | rfl | rfl | rfl | rfl
  · show parse? ("set" ++ " " ++ name ++ " " ++ joinWords words) = _
    rw [parse?_binder (.inl rfl) hchars.isBare hne hbare, ofWords_of_ne _ hequals,
      dropDollar_of_isNameChars hchars]
  · show parse? ("let" ++ " " ++ name ++ " " ++ joinWords words) = _
    rw [parse?_binder (.inr rfl) hchars.isBare hne hbare, ofWords_of_ne _ hequals,
      dropDollar_of_isNameChars hchars]
  · rw [append_equals_joinWords _ hne]
    show parse? ("set" ++ " " ++ name ++ " " ++ joinWords ("=" :: words)) = _
    rw [parse?_binder (.inl rfl) hchars.isBare (List.cons_ne_nil _ _) hsigned,
      ofWords_equals _ hne, dropDollar_of_isNameChars hchars]
  · have hfront : "let $" ++ name = "let" ++ " " ++ ("$" ++ name) := by
      rw [← String.append_assoc]
      rfl
    rw [append_equals_joinWords _ hne, hfront,
      parse?_binder (.inr rfl) (isBare_dollar hchars) (List.cons_ne_nil _ _) hsigned,
      ofWords_equals _ hne, dropDollar_dollar]
  · exact parse?_equals hchars hne hwords
  · exact parse?_spacedEquals hchars hne hwords hset hlet
  · exact parse?_export hchars hne hwords
  · exact parse?_dollar hchars hne hbare

/-- The variable is called `export`, and the words look like equations and references. -/
theorem parse?_spelling_export :
    isName "export" = true ∧ ["a=b", "$x", "\\", "="].head? ≠ some "=" ∧
      ∀ line ∈ spellings "export" "a=b $x \\ =",
        parse? line = some ⟨"export", "a=b $x \\ ="⟩ := by
  have hname : isName "export" = true := by decide
  have hwords : ∀ w ∈ ["a=b", "$x", "\\", "="], IsWordValue w.toList := by decide
  have hequals : ["a=b", "$x", "\\", "="].head? ≠ some "=" := by decide
  exact ⟨hname, hequals, fun line hline =>
    parse?_spelling hname (by decide) (by decide) (List.cons_ne_nil _ _) hwords hequals hline⟩

/-! ## Names -/

/-- The name is a word of the line: the one after `set` or `let`, or the first one.  It is taken as
it is, but for a dollar sign in front. -/
inductive TakesWord (name : String) : List String → Prop
  | binder {first word : String} {words : List String} (hfirst : first = "set" ∨ first = "let")
      (hwords : words ≠ []) (hname : name = dropDollar word) :
      TakesWord name (first :: word :: words)
  | dollar {words : List String} (hwords : words ≠ []) : TakesWord name (("$" ++ name) :: words)

theorem binding?_inv {cs name value : List Char} (h : binding? cs = some (name, value)) :
    IsNameChars name := by
  rw [binding?] at h
  split at h
  · cases h
  · rename_i hempty
    split at h
    · obtain ⟨body, -, heq⟩ := Option.map_eq_some_iff.1 h
      obtain ⟨rfl, -⟩ := Prod.mk.inj heq
      exact Reference.isNameChars_leadingName (by simpa using hempty)
    · cases h

/-- An equation binds a name. -/
theorem isName_of_equation? {line : String} {a : Assignment} (h : equation? line = some a) :
    isName a.name = true := by
  obtain ⟨⟨name, value⟩, hfound, rfl⟩ := Option.map_eq_some_iff.1 h
  have hname : IsNameChars name := by
    split at hfound
    · rename_i b hexport
      obtain rfl := Option.some.inj hfound
      obtain ⟨cs, -, hcs⟩ := Option.bind_eq_some_iff.1 hexport
      exact binding?_inv hcs
    · exact binding?_inv hfound
  rw [isName_iff]
  show IsNameChars (String.ofList name).toList
  rwa [String.toList_ofList]

theorem ofTokens?_inv {line : String} {tokens : List String} {a : Assignment}
    (h : ofTokens? line tokens = some a) : equation? line = some a ∨ TakesWord a.name tokens := by
  rcases tokens with _ | ⟨first, rest⟩
  · cases h
  · by_cases hbinder : (first = "set" ∨ first = "let") ∧ 2 ≤ rest.length
    · obtain ⟨hfirst, hlength⟩ := hbinder
      rcases rest with _ | ⟨word, words⟩
      · cases hlength
      · have hwords : words ≠ [] := List.ne_nil_of_length_pos (Nat.le_of_succ_le_succ hlength)
        rw [ofTokens?_binder hfirst hwords] at h
        obtain rfl := Option.some.inj h
        exact .inr (.binder hfirst hwords rfl)
    · have hshort : first = "set" ∨ first = "let" → rest.length < 2 := fun hfirst =>
        Nat.lt_of_not_le fun hlength => hbinder ⟨hfirst, hlength⟩
      rw [ofTokens?_eq_or hshort, Option.or_eq_some_iff] at h
      rcases h with hequation | ⟨-, hdollar⟩
      · exact .inl hequation
      · obtain ⟨rfl, hrest, -⟩ := dollarWords?_inv hdollar
        exact .inr (.dollar hrest)

/-- What is bound is a name, or it is a word of the line that is taken as it is. -/
theorem isName_or_takesWord {line : String} {a : Assignment} (h : parse? line = some a) :
    isName a.name = true ∨ TakesWord a.name (tokenize line) :=
  (ofTokens?_inv h).imp_left isName_of_equation?

end Assignment

end JsonShell
