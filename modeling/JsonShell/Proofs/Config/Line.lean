import JsonShell.Config
import JsonShell.Proofs.Text.Numeral
import JsonShell.Proofs.Text.Split
import JsonShell.Proofs.Text.Trim

/-!
# Lines of the configuration

A line is for the option whose key stands before its first equals sign, with the value that stands
after it (`keyValue?`).  Lines without an equals sign are commands, unless they are blank or
comments (`IsCommand`).  Blanks around a line make no difference to what it says, and a comment that
has an equals sign in it has the key of no option.

So reading a line sets an option (`readLine_of_keyValue?`), adds a command
(`readLine_of_isCommand`), or does nothing.
-/

set_option autoImplicit false

namespace JsonShell

namespace Config

variable {home : Option Path} {c : Config} {line key value : String}

/-! ## Lines -/

/-- What stands before and after the first equals sign of a line, without the blanks around. -/
def keyValue? (line : String) : Option (String × String) :=
  (Text.splitStringFirst "=" line).map fun (key, value) => (Text.trim key, Text.trim value)

/-- The first character that is not blank is a `#`. -/
def IsComment (line : String) : Prop :=
  (Text.trim line).toList.head? = some '#'

/-- The line is run at the start. -/
def IsCommand (line : String) : Prop :=
  Text.isAllBlank line = false ∧ '=' ∉ line.toList ∧ ¬ IsComment line

instance (line : String) : Decidable (IsComment line) :=
  inferInstanceAs (Decidable (_ = _))

instance (line : String) : Decidable (IsCommand line) :=
  inferInstanceAs (Decidable (_ ∧ _ ∧ _))

theorem splitStringFirst_eq_none_iff :
    Text.splitStringFirst "=" line = none ↔ '=' ∉ line.toList := by
  rw [Text.splitStringFirst, Option.map_eq_none_iff]
  exact Text.splitFirst_singleton_eq_none_iff

theorem keyValue?_eq_none_iff : keyValue? line = none ↔ '=' ∉ line.toList := by
  rw [keyValue?, Option.map_eq_none_iff, splitStringFirst_eq_none_iff]

theorem keyValue?_eq_some {cs ds : List Char} (h : line.toList = cs ++ '=' :: ds)
    (hcs : '=' ∉ cs) : keyValue? line =
      some (String.ofList (Text.trimChars cs), String.ofList (Text.trimChars ds)) := by
  have hsplit : Text.splitFirst ['='] line.toList = some (cs, ds) := by
    rw [h, List.append_cons]
    exact Text.splitFirst_append hcs ds
  show (((Text.splitFirst ['='] line.toList).map _).map _) = _
  rw [hsplit]
  simp [Text.trim]

/-- The equals sign is no blank. -/
theorem not_mem_of_blanks {cs : List Char} (h : ∀ ch ∈ cs, isBlank ch = true) : '=' ∉ cs :=
  fun hmem => absurd (h '=' hmem) (by decide)

theorem mem_toList_trim : '=' ∈ (Text.trim line).toList ↔ '=' ∈ line.toList := by
  obtain ⟨front, back, hfront, hback, heq⟩ := Text.exists_eq_trimChars line.toList
  rw [Text.trim, String.toList_ofList]
  constructor
  · exact fun hmem => Text.trimChars_subset _ hmem
  · intro hmem
    rw [heq] at hmem
    rcases List.mem_append.1 hmem with hmem | hmem
    · exact (List.mem_append.1 hmem).resolve_left (not_mem_of_blanks hfront)
    · exact absurd hmem (not_mem_of_blanks hback)

/-- Blanks around a line make no difference to what it says. -/
theorem keyValue?_trim (line : String) : keyValue? (Text.trim line) = keyValue? line := by
  by_cases hmem : '=' ∈ (Text.trim line).toList
  · obtain ⟨cs, ds, hsplit, hcs⟩ := List.eq_append_cons_of_mem hmem
    obtain ⟨front, back, hfront, hback, heq⟩ := Text.exists_eq_trimChars line.toList
    have hline : line.toList = (front ++ cs) ++ '=' :: (ds ++ back) := by
      rw [Text.trim, String.toList_ofList] at hsplit
      rw [heq, hsplit]
      simp
    have hfree : '=' ∉ front ++ cs :=
      fun h => (List.mem_append.1 h).elim (not_mem_of_blanks hfront) hcs
    rw [keyValue?_eq_some hsplit hcs, keyValue?_eq_some hline hfree,
      Text.trimChars_append_left hfront, Text.trimChars_append_right hback]
  · rw [keyValue?_eq_none_iff.2 hmem, keyValue?_eq_none_iff.2 (mt mem_toList_trim.2 hmem)]

/-- The key of a comment begins with its `#`. -/
theorem IsComment.head?_key (h : IsComment line) (hkey : keyValue? line = some (key, value)) :
    key.toList.head? = some '#' := by
  rw [← keyValue?_trim] at hkey
  have hmem : '=' ∈ (Text.trim line).toList := by
    refine Decidable.byContradiction fun hmem => ?_
    rw [keyValue?_eq_none_iff.2 hmem] at hkey
    cases hkey
  obtain ⟨cs, ds, hsplit, hcs⟩ := List.eq_append_cons_of_mem hmem
  rw [keyValue?_eq_some hsplit hcs] at hkey
  obtain ⟨rfl, -⟩ := Prod.mk.inj (Option.some.inj hkey)
  rw [String.toList_ofList]
  refine Text.head?_trimChars ?_ (by decide)
  rw [IsComment, hsplit] at h
  cases cs with
  | nil => cases h
  | cons ch cs => exact h

/-! ## Options -/

/-- The options. -/
inductive Name where
  | modulePaths
  | useColors
  | promptTemplate
  | historySize
  | interpreter
  | moduleExtension
deriving DecidableEq

namespace Name

/-- The keys of an option.  That of the prompt has two. -/
def keys : Name → List String
  | modulePaths => ["module_paths"]
  | useColors => ["use_colors"]
  | promptTemplate => ["prompt_symbol", "prompt_template"]
  | historySize => ["history_size"]
  | interpreter => ["python_executable"]
  | moduleExtension => ["module_extension"]

/-- The value is one for the option: the size of the history is an unsigned literal that fits a
machine word, and the interpreter and the extension are not empty. -/
def Accepts : Name → String → Prop
  | historySize, value => ∃ size, Numeral.IsUnsigned value.toList size ∧ size ≤ Numeral.maxNatural
  | interpreter, value => value ≠ ""
  | moduleExtension, value => value ≠ ""
  | _, _ => True

end Name

/-- A text that is not empty. -/
def nonempty? (value : String) : Option String :=
  if value = "" then none else some value

/-- A text without the dots in front. -/
def dropDots (value : String) : String :=
  String.ofList (value.toList.dropWhile (· == '.'))

/-- The options after a value for one of them. -/
def set (home : Option Path) (c : Config) (value : String) : Name → Config
  | .modulePaths => { c with modulePaths := readPaths value home }
  | .useColors => { c with useColors := value ≠ "false" }
  | .promptTemplate => { c with promptTemplate := value }
  | .historySize =>
    { c with historySize := (Numeral.natural value).toOption.getD c.historySize }
  | .interpreter => { c with interpreter := (nonempty? value).getD c.interpreter }
  | .moduleExtension =>
    { c with moduleExtension := ((nonempty? value).map dropDots).getD c.moduleExtension }

theorem setOption_of_mem {n : Name} (h : key ∈ n.keys) :
    setOption home c key value = c.set home value n := by
  cases n with
  | promptTemplate =>
    simp only [Name.keys, List.mem_cons, List.not_mem_nil, or_false] at h
    rcases h with rfl | rfl <;> rfl
  | historySize =>
    obtain rfl := List.mem_singleton.1 h
    unfold setOption set
    cases Numeral.natural value <;> rfl
  | interpreter =>
    obtain rfl := List.mem_singleton.1 h
    show (if value = "" then c else { c with interpreter := value }) = _
    rw [set, nonempty?]
    split <;> rfl
  | moduleExtension =>
    obtain rfl := List.mem_singleton.1 h
    show (if value = "" then c else { c with moduleExtension := dropDots value }) = _
    rw [set, nonempty?]
    split <;> rfl
  | _ =>
    obtain rfl := List.mem_singleton.1 h
    rfl

theorem setOption_of_unknown (h : ∀ n : Name, key ∉ n.keys) : setOption home c key value = c := by
  have hpaths := h .modulePaths
  have hcolors := h .useColors
  have hprompt := h .promptTemplate
  have hsize := h .historySize
  have hinterpreter := h .interpreter
  have hextension := h .moduleExtension
  simp only [Name.keys, List.mem_cons, List.not_mem_nil, or_false] at *
  rw [setOption, if_neg hpaths, if_neg hcolors, if_neg hprompt, if_neg hsize, if_neg hinterpreter,
    if_neg hextension]

theorem not_mem_keys_of_comment (h : key.toList.head? = some '#') (n : Name) : key ∉ n.keys := by
  intro hmem
  cases n <;> simp only [Name.keys, List.mem_cons, List.not_mem_nil, or_false] at hmem
  case promptTemplate => rcases hmem with rfl | rfl <;> revert h <;> decide
  all_goals
    subst hmem
    revert h
    decide

/-! ## What a line does -/

theorem readLine_of_isComment (h : IsComment line) : readLine home c (Text.trim line) = c :=
  if_pos (.inr h)

theorem readLine_of_blank (h : Text.isAllBlank line = true) :
    readLine home c (Text.trim line) = c :=
  if_pos (.inl (Text.trim_eq_empty.2 h))

theorem not_skipped (hblank : Text.isAllBlank line = false) (h : ¬ IsComment line) :
    ¬(Text.trim line = "" ∨ (Text.trim line).toList.head? = some '#') := by
  refine not_or.2 ⟨fun hempty => ?_, h⟩
  rw [Text.trim_eq_empty.1 hempty] at hblank
  cases hblank

theorem readLine_of_isCommand (h : IsCommand line) :
    readLine home c (Text.trim line) = { c with startup := c.startup ++ [Text.trim line] } := by
  obtain ⟨hblank, hmem, hcomment⟩ := h
  rw [readLine, if_neg (not_skipped hblank hcomment),
    splitStringFirst_eq_none_iff.2 (mt mem_toList_trim.1 hmem)]

/-- A line with a key is for the option of that key.  A comment with an equals sign in it has the
key of no option. -/
theorem readLine_of_keyValue? (h : keyValue? line = some (key, value)) :
    readLine home c (Text.trim line) = setOption home c key value := by
  by_cases hcomment : IsComment line
  · rw [readLine_of_isComment hcomment,
      setOption_of_unknown (not_mem_keys_of_comment (hcomment.head?_key h))]
  · have hblank : Text.isAllBlank line = false := by
      refine Bool.eq_false_iff.2 fun hblank => ?_
      rw [← keyValue?_trim, Text.trim_eq_empty.2 hblank] at h
      cases h
    rw [← keyValue?_trim, keyValue?] at h
    obtain ⟨⟨key', value'⟩, hsplit, heq⟩ := Option.map_eq_some_iff.1 h
    obtain ⟨rfl, rfl⟩ := Prod.mk.inj heq
    rw [readLine, if_neg (not_skipped hblank hcomment), hsplit]

/-- A line without a key that is no command says nothing. -/
theorem readLine_of_none (hkey : keyValue? line = none) (h : ¬ IsCommand line) :
    readLine home c (Text.trim line) = c := by
  cases hblank : Text.isAllBlank line with
  | true => exact readLine_of_blank hblank
  | false =>
    refine readLine_of_isComment (Decidable.byContradiction fun hcomment => ?_)
    exact h ⟨hblank, keyValue?_eq_none_iff.1 hkey, hcomment⟩

end Config

end JsonShell
