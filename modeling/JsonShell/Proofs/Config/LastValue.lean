import JsonShell.Proofs.Config.Line

/-!
# The last valid line decides

A `Setting` is an option with what it makes of the values that it accepts, and with the proof that
values for other options leave it alone.

An option has the value of the last line that gives it one, and its default if no line does
(`Setting.get_parse`).  So it makes no difference where the lines for other options are, what the
earlier lines for the same one say, or that there are lines that say nothing (`IsIdle`).
-/

set_option autoImplicit false

namespace JsonShell

namespace Config

variable {α : Type} {home : Option Path} {c : Config} {line key value : String}
  {lines before after : List String}

/-! ## Settings -/

/-- An option: what it makes of the values that it accepts, and where its own value is.  Values for
other options and commands leave that alone. -/
structure Setting (home : Option Path) (α : Type) where
  name : Name
  accept : String → Option α
  get : Config → α
  isSome_accept : ∀ value, (accept value).isSome = true ↔ name.Accepts value
  get_set : ∀ n (c : Config) value,
    get (c.set home value n) = if n = name then (accept value).getD (get c) else get c
  get_startup : ∀ (c : Config) commands, get { c with startup := commands } = get c

namespace Setting

theorem isSome_nonempty? (value : String) : (nonempty? value).isSome = true ↔ value ≠ "" := by
  rw [nonempty?]
  split <;> simp_all

theorem isSome_natural (value : String) :
    (Numeral.natural value).toOption.isSome = true ↔ Name.historySize.Accepts value := by
  rw [Name.Accepts]
  simp only [← Numeral.natural_eq_ok_iff]
  cases Numeral.natural value <;> simp [Except.toOption]

variable (home : Option Path)

def modulePaths : Setting home (List Path) where
  name := .modulePaths
  accept value := some (readPaths value home)
  get := Config.modulePaths
  isSome_accept _ := ⟨fun _ => trivial, fun _ => rfl⟩
  get_set n _ _ := by cases n <;> rfl
  get_startup _ _ := rfl

def useColors : Setting home Bool where
  name := .useColors
  accept value := some (value ≠ "false")
  get := Config.useColors
  isSome_accept _ := ⟨fun _ => trivial, fun _ => rfl⟩
  get_set n _ _ := by cases n <;> rfl
  get_startup _ _ := rfl

def promptTemplate : Setting home String where
  name := .promptTemplate
  accept := some
  get := Config.promptTemplate
  isSome_accept _ := ⟨fun _ => trivial, fun _ => rfl⟩
  get_set n _ _ := by cases n <;> rfl
  get_startup _ _ := rfl

def historySize : Setting home Nat where
  name := .historySize
  accept value := (Numeral.natural value).toOption
  get := Config.historySize
  isSome_accept := isSome_natural
  get_set n _ _ := by cases n <;> rfl
  get_startup _ _ := rfl

def interpreter : Setting home String where
  name := .interpreter
  accept := nonempty?
  get := Config.interpreter
  isSome_accept := isSome_nonempty?
  get_set n _ _ := by cases n <;> rfl
  get_startup _ _ := rfl

def moduleExtension : Setting home String where
  name := .moduleExtension
  accept value := (nonempty? value).map dropDots
  get := Config.moduleExtension
  isSome_accept value := by rw [Option.isSome_map]; exact isSome_nonempty? value
  get_set n _ _ := by cases n <;> rfl
  get_startup _ _ := rfl

variable {home} (s : Setting home α)

/-- The value that a line gives to the option. -/
def read? (line : String) : Option α :=
  (keyValue? line).bind fun (key, value) => if key ∈ s.name.keys then s.accept value else none

/-- The value that the last of the lines with one gives to the option, or its default. -/
def last (lines : List String) : α :=
  (lines.filterMap s.read?).getLast?.getD (s.get default)

variable {s}

theorem read?_eq (h : keyValue? line = some (key, value)) :
    s.read? line = if key ∈ s.name.keys then s.accept value else none := by
  rw [read?, h, Option.bind_some]

/-- The option has the value that a line gives it, or else the one it had. -/
theorem get_readLine :
    s.get (readLine home c (Text.trim line)) = (s.read? line).getD (s.get c) := by
  cases hline : keyValue? line with
  | none =>
    rw [read?, hline, Option.bind_none, Option.getD_none]
    by_cases hcommand : IsCommand line
    · rw [readLine_of_isCommand hcommand, s.get_startup]
    · rw [readLine_of_none hline hcommand]
  | some pair =>
    obtain ⟨key, value⟩ := pair
    rw [readLine_of_keyValue? hline, read?_eq hline]
    by_cases hkey : key ∈ s.name.keys
    · rw [setOption_of_mem hkey, s.get_set, if_pos rfl, if_pos hkey]
    · rw [if_neg hkey, Option.getD_none]
      by_cases hknown : ∃ n : Name, key ∈ n.keys
      · obtain ⟨n, hn⟩ := hknown
        have hne : n ≠ s.name := fun heq => hkey (heq ▸ hn)
        rw [setOption_of_mem hn, s.get_set, if_neg hne]
      · rw [setOption_of_unknown (not_exists.1 hknown)]

theorem get_foldl (lines : List String) (c : Config) :
    s.get ((lines.map Text.trim).foldl (readLine home) c) =
      (lines.filterMap s.read?).getLast?.getD (s.get c) := by
  induction lines generalizing c with
  | nil => rfl
  | cons line rest ih =>
    rw [List.map_cons, List.foldl_cons, ih, get_readLine]
    cases hline : s.read? line with
    | none => rw [List.filterMap_cons_none hline, Option.getD_none]
    | some a => rw [List.filterMap_cons_some hline, List.getLast?_cons]; rfl

/-- The value is what the last of the lines with one gives to the option, or else the default. -/
def IsLast (s : Setting home α) (lines : List String) (a : α) : Prop :=
  (∃ before line after, lines = before ++ line :: after ∧ s.read? line = some a ∧
    ∀ other ∈ after, s.read? other = none) ∨
  (∀ line ∈ lines, s.read? line = none) ∧ a = s.get default

theorem isLast_last (s : Setting home α) (lines : List String) : s.IsLast lines (s.last lines) := by
  rw [last]
  cases hlast : (lines.filterMap s.read?).getLast? with
  | none =>
    rw [List.getLast?_eq_none_iff, List.filterMap_eq_nil_iff] at hlast
    exact .inr ⟨hlast, rfl⟩
  | some a =>
    rw [List.getLast?_filterMap, List.findSome?_eq_some_iff] at hlast
    obtain ⟨after, line, before, hlines, hread, hafter⟩ := hlast
    refine .inl ⟨before.reverse, line, after.reverse, ?_, hread, fun other hother => ?_⟩
    · rw [← List.reverse_reverse lines, hlines]
      simp
    · exact hafter other (List.mem_reverse.1 hother)

/-- There is only one such value. -/
theorem IsLast.last_eq {a : α} (h : s.IsLast lines a) : s.last lines = a := by
  rcases h with ⟨before, line, after, rfl, hread, hafter⟩ | ⟨hnone, rfl⟩
  · rw [last, List.filterMap_append, List.filterMap_cons_some hread,
      List.filterMap_eq_nil_iff.2 hafter, List.getLast?_concat, Option.getD_some]
  · rw [last, List.filterMap_eq_nil_iff.2 hnone, List.getLast?_nil, Option.getD_none]

/-- **An option has the value of the last line that gives it one**, or its default. -/
theorem get_parse (s : Setting home α) (text : String) :
    s.get (parse text home) = s.last (Text.lines text) :=
  get_foldl (Text.lines text) default

/-! ## Lines that make no difference -/

theorem last_insert (h : s.read? line = none) :
    s.last (before ++ line :: after) = s.last (before ++ after) := by
  rw [last, last, List.filterMap_append, List.filterMap_append, List.filterMap_cons_none h]

theorem last_exchange {a b : String} (h : s.read? a = none ∨ s.read? b = none) :
    s.last (before ++ a :: b :: after) = s.last (before ++ b :: a :: after) := by
  rcases h with h | h
  · have hmoved : s.last ((before ++ [b]) ++ a :: after) = s.last ((before ++ [b]) ++ after) :=
      last_insert h
    rw [List.append_assoc, List.append_assoc] at hmoved
    exact (last_insert h).trans hmoved.symm
  · have hmoved : s.last ((before ++ [a]) ++ b :: after) = s.last ((before ++ [a]) ++ after) :=
      last_insert h
    rw [List.append_assoc, List.append_assoc] at hmoved
    exact hmoved.trans (last_insert h).symm

end Setting

/-! ## All options -/

/-- The commands among the lines, without the blanks around. -/
def commands (lines : List String) : List String :=
  (lines.filter IsCommand).map Text.trim

/-- Each option with the value of the last line that gives it one, and the commands. -/
def lastValues (home : Option Path) (lines : List String) : Config :=
  { modulePaths := (Setting.modulePaths home).last lines
    useColors := (Setting.useColors home).last lines
    promptTemplate := (Setting.promptTemplate home).last lines
    historySize := (Setting.historySize home).last lines
    interpreter := (Setting.interpreter home).last lines
    moduleExtension := (Setting.moduleExtension home).last lines
    startup := commands lines }

theorem startup_set (n : Name) : (c.set home value n).startup = c.startup := by
  cases n <;> rfl

theorem startup_readLine_of_not_isCommand (h : ¬ IsCommand line) :
    (readLine home c (Text.trim line)).startup = c.startup := by
  cases hline : keyValue? line with
  | none => rw [readLine_of_none hline h]
  | some pair =>
    rw [readLine_of_keyValue? hline]
    by_cases hknown : ∃ n : Name, pair.1 ∈ n.keys
    · obtain ⟨n, hn⟩ := hknown
      rw [setOption_of_mem hn, startup_set]
    · rw [setOption_of_unknown (not_exists.1 hknown)]

theorem startup_foldl (lines : List String) (c : Config) :
    ((lines.map Text.trim).foldl (readLine home) c).startup = c.startup ++ commands lines := by
  induction lines generalizing c with
  | nil => exact (List.append_nil _).symm
  | cons line rest ih =>
    rw [List.map_cons, List.foldl_cons, ih, commands, commands]
    by_cases h : IsCommand line
    · rw [readLine_of_isCommand h, List.filter_cons_of_pos (by simpa using h), List.map_cons,
        List.append_assoc, List.singleton_append]
    · rw [startup_readLine_of_not_isCommand h, List.filter_cons_of_neg (by simpa using h)]

theorem parse_eq_lastValues (text : String) (home : Option Path) :
    parse text home = lastValues home (Text.lines text) := by
  have hstartup : (parse text home).startup = commands (Text.lines text) :=
    startup_foldl (Text.lines text) default
  rw [lastValues, ← hstartup]
  simp only [← Setting.get_parse]
  rfl

/-! ## Lines that say nothing, and lines for different options -/

/-- The line has a key of the option. -/
def IsFor (line : String) (n : Name) : Prop :=
  ∃ key value, keyValue? line = some (key, value) ∧ key ∈ n.keys

/-- The line says nothing: it is blank or a comment, or has a key of no option or a value that its
option does not accept. -/
inductive IsIdle (line : String) : Prop
  | blank (h : Text.isAllBlank line = true)
  | comment (h : IsComment line)
  | unknown {key value : String} (h : keyValue? line = some (key, value))
      (hkey : ∀ n : Name, key ∉ n.keys)
  | rejected {key value : String} {n : Name} (h : keyValue? line = some (key, value))
      (hkey : key ∈ n.keys) (hvalue : ¬ n.Accepts value)

/-- A key is that of one option only. -/
theorem Name.eq_of_mem_keys {m n : Name} (hm : key ∈ m.keys) (hn : key ∈ n.keys) : m = n := by
  have hdisjoint : ∀ m n : Name, m ≠ n → ∀ key ∈ m.keys, key ∉ n.keys := by
    intro m n
    cases m <;> cases n <;> decide
  exact Decidable.byContradiction fun hne => hdisjoint m n hne key hm hn

theorem IsFor.read?_eq_none {s : Setting home α} {n : Name} (h : IsFor line n) (hne : n ≠ s.name) :
    s.read? line = none := by
  obtain ⟨key, value, hline, hkey⟩ := h
  rw [Setting.read?_eq hline, if_neg fun hmem => hne (Name.eq_of_mem_keys hkey hmem)]

theorem IsFor.not_isCommand {n : Name} (h : IsFor line n) : ¬ IsCommand line := by
  obtain ⟨key, value, hline, -⟩ := h
  intro hcommand
  rw [keyValue?_eq_none_iff.2 hcommand.2.1] at hline
  cases hline

theorem IsIdle.read?_eq_none {s : Setting home α} (h : IsIdle line) : s.read? line = none := by
  cases hline : keyValue? line with
  | none => rw [Setting.read?, hline, Option.bind_none]
  | some pair =>
    obtain ⟨key, value⟩ := pair
    have hunknown : (∀ n : Name, key ∉ n.keys) → s.read? line = none := fun hkey => by
      rw [Setting.read?_eq hline, if_neg (hkey s.name)]
    rcases h with hblank | hcomment | ⟨h, hkey⟩ | ⟨h, hkey, hvalue⟩
    · rw [← keyValue?_trim, Text.trim_eq_empty.2 hblank] at hline
      cases hline
    · exact hunknown (not_mem_keys_of_comment (hcomment.head?_key hline))
    · cases h.symm.trans hline
      exact hunknown hkey
    · cases h.symm.trans hline
      rw [Setting.read?_eq hline]
      split
      · rename_i hmem
        cases Name.eq_of_mem_keys hkey hmem
        rw [← Option.not_isSome_iff_eq_none, s.isSome_accept]
        exact hvalue
      · rfl

theorem IsIdle.not_isCommand (h : IsIdle line) : ¬ IsCommand line := by
  rintro ⟨hblank, hmem, hcomment⟩
  have hnone := keyValue?_eq_none_iff.2 hmem
  rcases h with h | h | ⟨h, -⟩ | ⟨h, -⟩
  · rw [h] at hblank
    cases hblank
  · exact hcomment h
  · cases hnone.symm.trans h
  · cases hnone.symm.trans h

theorem commands_insert (h : ¬ IsCommand line) :
    commands (before ++ line :: after) = commands (before ++ after) := by
  rw [commands, commands, List.filter_append, List.filter_append,
    List.filter_cons_of_neg (by simpa using h)]

/-- A line that says nothing makes no difference. -/
theorem lastValues_insert (h : IsIdle line) :
    lastValues home (before ++ line :: after) = lastValues home (before ++ after) := by
  simp only [lastValues, Setting.last_insert h.read?_eq_none, commands_insert h.not_isCommand]

/-- The order of lines for different options makes no difference. -/
theorem lastValues_exchange {a b : String} {m n : Name} (ha : IsFor a m) (hb : IsFor b n)
    (hne : m ≠ n) :
    lastValues home (before ++ a :: b :: after) = lastValues home (before ++ b :: a :: after) := by
  have hread {α : Type} (s : Setting home α) : s.read? a = none ∨ s.read? b = none := by
    by_cases hs : m = s.name
    · exact .inr (hb.read?_eq_none fun heq => hne (hs.trans heq.symm))
    · exact .inl (ha.read?_eq_none hs)
  have hcommands : commands (before ++ a :: b :: after) = commands (before ++ b :: a :: after) := by
    rw [commands_insert ha.not_isCommand, commands_insert hb.not_isCommand,
      commands_insert hb.not_isCommand, commands_insert ha.not_isCommand]
  simp only [lastValues, Setting.last_exchange (hread _), hcommands]

/-- **Each option has the value of the last line for it whose value it accepts, or its default, and
the commands are run in their order.**  So lines that say nothing can be put anywhere, and
neighbouring lines for different options can be exchanged. -/
theorem parse_lastValues (home : Option Path) :
    (∀ text, parse text home = lastValues home (Text.lines text)) ∧
    (∀ {α : Type} (s : Setting home α) (text : String),
      s.IsLast (Text.lines text) (s.get (parse text home))) ∧
    (∀ value size, (Setting.historySize home).accept value = some size ↔
      Numeral.IsUnsigned value.toList size ∧ size ≤ Numeral.maxNatural) ∧
    (∀ text text' before line after, Text.lines text = before ++ after →
      Text.lines text' = before ++ line :: after → IsIdle line →
      parse text' home = parse text home) ∧
    ∀ text text' before a b after m n, Text.lines text = before ++ a :: b :: after →
      Text.lines text' = before ++ b :: a :: after → IsFor a m → IsFor b n → m ≠ n →
      parse text' home = parse text home := by
  refine ⟨fun text => parse_eq_lastValues text home, fun s text => ?_, fun value size => ?_,
    ?_, ?_⟩
  · rw [Setting.get_parse]
    exact s.isLast_last _
  · rw [← Numeral.natural_eq_ok_iff]
    show (Numeral.natural value).toOption = some size ↔ _
    cases Numeral.natural value <;> simp [Except.toOption]
  · intro text text' before line after htext htext' hidle
    rw [parse_eq_lastValues, parse_eq_lastValues, htext, htext', lastValues_insert hidle]
  · intro text text' before a b after m n htext htext' ha hb hne
    rw [parse_eq_lastValues, parse_eq_lastValues, htext, htext', lastValues_exchange ha hb hne]

/-- A size that is no literal after one that is, two options in either order, two keys of one
option, and a comment with an equals sign. -/
theorem parse_lastValues_rejected :
    let text := "history_size = +5\nprompt_symbol=$\n#use_colors=no\nprompt_template= x="
    let more :=
      "history_size = +5\nhistory_size=-7\r\nprompt_symbol=$\n#use_colors=no\nprompt_template= x=\n"
    let turned := "prompt_symbol=$\nhistory_size = +5\n#use_colors=no\nprompt_template= x="
    IsIdle "history_size=-7" ∧ parse more none = parse text none ∧
      IsFor "history_size = +5" .historySize ∧ IsFor "prompt_symbol=$" .promptTemplate ∧
      parse turned none = parse text none ∧
      parse text none = { default with historySize := 5, promptTemplate := "x=" } := by
  intro text more turned
  have hrejected : ¬ Name.historySize.Accepts "-7" :=
    mt (Setting.isSome_natural "-7").2 (by decide +kernel)
  have hkey : "history_size" ∈ Name.historySize.keys := by decide
  have hprompt : "prompt_symbol" ∈ Name.promptTemplate.keys := by decide
  have hidle : IsIdle "history_size=-7" := .rejected (by decide +kernel) hkey hrejected
  have hsize : IsFor "history_size = +5" .historySize := ⟨_, "+5", by decide +kernel, hkey⟩
  have hsymbol : IsFor "prompt_symbol=$" .promptTemplate := ⟨_, "$", by decide +kernel, hprompt⟩
  let rest := ["#use_colors=no", "prompt_template= x="]
  have htext : Text.lines text = "history_size = +5" :: "prompt_symbol=$" :: rest := by
    decide +kernel
  have hmore : Text.lines more =
      "history_size = +5" :: "history_size=-7" :: "prompt_symbol=$" :: rest := by decide +kernel
  have hturned : Text.lines turned = "prompt_symbol=$" :: "history_size = +5" :: rest := by
    decide +kernel
  obtain ⟨-, -, -, hinsert, hexchange⟩ := parse_lastValues none
  have hmoved := hexchange text turned [] "history_size = +5" "prompt_symbol=$" rest
    .historySize .promptTemplate htext hturned hsize hsymbol (by decide)
  have hadded := hinsert text more ["history_size = +5"] "history_size=-7"
    ("prompt_symbol=$" :: rest) htext hmore hidle
  exact ⟨hidle, hadded, hsize, hsymbol, hmoved, by decide +kernel⟩

end Config

end JsonShell
