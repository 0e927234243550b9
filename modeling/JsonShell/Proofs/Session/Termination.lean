import JsonShell.Proofs.Loop.Shape
import JsonShell.Proofs.Session.BodyCall

/-!
# Lines that come to an end

A line that is neither a script nor a loop always has a run.  A loop runs the commands of its body,
which are shorter than the loop, and an inner loop is run as it is written.  So nesting comes to an
end (`execute_terminates`), with one exception: any other command of a body is expanded before it is
run, and if what it expands to is a loop, that loop is run, however long it is.

No command becomes a loop if it starts with a word that is not one of loops, whatever the variables
hold (`Loop.parse?_trim_expand_eq_none`).  But a command that is a reference becomes whatever its
variable holds, even a loop with that same reference in its body, and then no depth is enough
(`execute_selfReference`).
-/

set_option autoImplicit false

namespace JsonShell

variable {ρ : Type} {settings : Settings ρ}

/-! ## What is run inside a line -/

/-- While the commands of a body are run, one of them is run in a session. -/
inductive BodyRuns (run : String → Action ρ Unit) :
    List String → Session ρ → Session ρ → String → Prop
  | first (command : String) (rest : List String) (s : Session ρ) :
      BodyRuns run (command :: rest) s s command
  | later {command inner : String} {rest : List String} {s t u : Session ρ} {trace : Trace}
      (done : run (Action.expandBody s.store command) s = some ⟨t, trace, .ok ()⟩)
      (runs : BodyRuns run rest t u inner) : BodyRuns run (command :: rest) s u inner

/-- While a body is run for the values of a variable, one of its commands is run in a session. -/
inductive LoopRuns (run : String → Action ρ Unit) (var : String) (body : List String) :
    List String → Session ρ → Session ρ → String → Prop
  | first {value command : String} {rest : List String} {s t : Session ρ}
      (runs : BodyRuns run body (Action.stored var value s) t command) :
      LoopRuns run var body (value :: rest) s t command
  | later {value command : String} {rest : List String} {s t u : Session ρ} {trace : Trace}
      (done : Action.runBody run body (Action.stored var value s) = some ⟨t, trace, .ok ()⟩)
      (runs : LoopRuns run var body rest t u command) :
      LoopRuns run var body (value :: rest) s u command

/-- While a line is run, a command of the body of some loop is run in a session.  Commands are given
as they are written.  Scripts are not followed. -/
inductive RunsInside (settings : Settings ρ) :
    Session ρ → String → Session ρ → String → Prop
  | body {line command : String} {s t : Session ρ} {l : Loop} {values : List String} {depth : Nat}
      (loop : Command.ofLine s.files line = .loop l)
      (range : { l with source := s.store.expand l.source }.values = .ok values)
      (runs : LoopRuns (Action.execute settings depth) l.var l.body values s t command) :
      RunsInside settings s line t command
  | inside {line command inner : String} {s t u : Session ρ}
      (outer : RunsInside settings s line t command)
      (runs : RunsInside settings t (Action.expandBody t.store command) u inner) :
      RunsInside settings s line u inner

/-! ## One level of a loop -/

namespace Action

/-- An inner loop is run as it is written. -/
theorem expandBody_of_eq_some {command : String} {l : Loop} (h : Loop.parse? command = some l)
    (store : Store) : expandBody store command = command := by
  rw [expandBody, h]
  rfl

/-- Any other command is expanded first. -/
theorem expandBody_of_eq_none {command : String} (h : Loop.parse? command = none)
    (store : Store) : expandBody store command = store.expand command := by
  rw [expandBody, h]
  rfl

end Action

section Level

variable {run : String → Action ρ Unit} {body : List String} {s t : Session ρ} {command : String}

theorem BodyRuns.mem (h : BodyRuns run body s t command) : command ∈ body := by
  induction h with
  | first => exact List.mem_cons_self
  | later _ _ ih => exact List.mem_cons_of_mem _ ih

theorem LoopRuns.mem {var : String} {values : List String}
    (h : LoopRuns run var body values s t command) : command ∈ body := by
  induction h with
  | first runs => exact runs.mem
  | later _ _ ih => exact ih

namespace Action

/-- A body has a run if each of its commands has one where it is run. -/
theorem exists_runBody_eq
    (h : ∀ t command, BodyRuns run body s t command →
      ∃ r, run (expandBody t.store command) t = some r) : ∃ r, runBody run body s = some r := by
  induction body generalizing s with
  | nil => exact ⟨_, rfl⟩
  | cons command rest ih =>
    rw [runBody, session_bind]
    obtain ⟨⟨t, trace, failure | _⟩, hfirst⟩ := h s command (.first command rest s)
    · exact ⟨_, bind_of_error hfirst⟩
    · obtain ⟨r, hr⟩ := ih fun u inner hinner => h u inner (.later hfirst hinner)
      rw [bind_of_ok hfirst, hr]
      exact ⟨_, rfl⟩

theorem exists_iterate_eq {var : String} {values : List String}
    (h : ∀ t command, LoopRuns run var body values s t command →
      ∃ r, run (expandBody t.store command) t = some r) :
    ∃ r, iterate run var body values s = some r := by
  induction values generalizing s with
  | nil => exact ⟨_, rfl⟩
  | cons value rest ih =>
    have hset : (setVariable var value : Action ρ Unit) s =
        some ⟨stored var value s, [], .ok ()⟩ := rfl
    rw [iterate, bind_of_ok hset, map_after_nil]
    obtain ⟨⟨t, trace, failure | _⟩, hbody⟩ := exists_runBody_eq fun u command hcommand =>
      h u command (.first hcommand)
    · exact ⟨_, bind_of_error hbody⟩
    · obtain ⟨r, hr⟩ := ih fun u command hcommand => h u command (.later hbody hcommand)
      rw [bind_of_ok hbody, hr]
      exact ⟨_, rfl⟩

/-- So has a loop, if its source is a range at all. -/
theorem exists_runLoop_eq {l : Loop}
    (h : ∀ values, { l with source := s.store.expand l.source }.values = .ok values →
      ∀ t command, LoopRuns run l.var l.body values s t command →
        ∃ r, run (expandBody t.store command) t = some r) :
    ∃ r, runLoop run l s = some r := by
  rw [runLoop_eq]
  split
  · exact ⟨_, rfl⟩
  · rename_i values hvalues
    obtain ⟨r, hr⟩ := exists_iterate_eq (h values hvalues)
    rw [hr]
    exact ⟨_, rfl⟩

/-- Commands that run no lines have a run. -/
theorem exists_runCommand_eq (settings : Settings ρ) (run : String → Action ρ Unit) (c : Command)
    (hscript : ∀ path, c ≠ .script path) (hloop : ∀ l, c ≠ .loop l) (s : Session ρ) :
    ∃ r, runCommand settings run c s = some r := by
  cases c with
  | nothing => exact ⟨_, rfl⟩
  | script path => exact absurd rfl (hscript path)
  | assignment a => exact ⟨_, assign_eq a s⟩
  | loop l => exact absurd rfl (hloop l)
  | pipeline line =>
    obtain ⟨r, hr, -⟩ := exists_runPipeline_callsSegments settings line s
    exact ⟨r, hr⟩
  | builtin b args => exact ⟨_, runBuiltin_eq settings b args s⟩
  | call name args =>
    obtain ⟨r, hr, -⟩ := exists_runCall settings name args s
    exact ⟨r, hr⟩

end Action

end Level

/-! ## Lines -/

namespace Command

variable {files : FileTree} {line : String}

theorem ofWords_ne_script (words : List String) (path : Path) : ofWords words ≠ .script path := by
  intro h
  cases words with
  | nil => cases h
  | cons name args =>
    rw [ofWords] at h
    split at h <;> cases h

theorem ofWords_ne_loop (words : List String) (l : Loop) : ofWords words ≠ .loop l := by
  intro h
  cases words with
  | nil => cases h
  | cons name args =>
    rw [ofWords] at h
    split at h <;> cases h

/-- Only a text that names a file is a script. -/
theorem ofLine_ne_script (hfile : files.isFile ⟨Text.trim line⟩ = false) (path : Path) :
    ofLine files line ≠ .script path := by
  intro h
  rw [ofLine] at h
  split at h
  · cases h
  · rw [if_neg (by rw [hfile]; decide)] at h
    split at h
    · cases h
    · split at h
      · cases h
      · split at h
        · cases h
        · exact ofWords_ne_script _ path h

/-- A loop is the one that the text of the line is. -/
theorem parse?_of_ofLine {l : Loop} (h : ofLine files line = .loop l) :
    Loop.parse? (Text.trim line) = some l := by
  rw [ofLine] at h
  split at h
  · cases h
  · split at h
    · cases h
    · split at h
      · cases h
      · split at h
        · rename_i hparse
          cases h
          exact hparse
        · split at h
          · cases h
          · exact absurd h (ofWords_ne_loop _ l)

theorem ofLine_ne_loop (hparse : Loop.parse? (Text.trim line) = none) (l : Loop) :
    ofLine files line ≠ .loop l := by
  intro h
  rw [parse?_of_ofLine h] at hparse
  cases hparse

end Command

/-! ## Commands that stay what they are -/

/-- **A command never becomes a loop** if it starts with a word that is not one of loops. -/
theorem Loop.parse?_trim_expand_eq_none {text : String} {name rest : List Char}
    (htext : text.toList = name ++ ' ' :: rest) (hname : IsNameChars name)
    (hcounted : name ≠ "forloop".toList) (hlisted : name ≠ "foreach".toList) (store : Store) :
    parse? (Text.trim (store.expand text)) = none := by
  have hdollar : '$' ∉ name := hname.not_mem (by decide)
  have hexpand : (store.expand text).toList =
      name ++ ' ' :: Reference.expandFrom store.valueOf 0 rest := by
    rw [Store.expand, String.toList_ofList, Store.expandChars, htext,
      Reference.expandFrom_append hdollar]
    rfl
  rw [Text.trim, hexpand]
  generalize Reference.expandFrom store.valueOf 0 rest = more
  obtain ⟨before, after, hbefore, -, hsplit⟩ := Text.exists_eq_trimChars (name ++ ' ' :: more)
  have hnothing : before = [] := by
    cases before with
    | nil => rfl
    | cons b before =>
      have hblank := hbefore b List.mem_cons_self
      rw [hname.isBlank_head _ b (by rw [hsplit]; rfl)] at hblank
      cases hblank
  rw [hnothing, List.nil_append] at hsplit
  generalize Text.trimChars (name ++ ' ' :: more) = text at hsplit
  rcases List.append_eq_append_iff.1 hsplit with ⟨tail, rfl, htail⟩ | ⟨tail, rfl, -⟩
  · cases tail with
    | nil =>
      refine parse?_eq_none_of_not_mem ?_
      rw [String.toList_ofList, List.append_nil]
      exact hname.not_mem (by decide)
    | cons c tail =>
      obtain ⟨rfl, -⟩ := List.cons.inj htail
      exact parse?_eq_none String.toList_ofList hname hcounted hlisted
  · refine parse?_eq_none_of_not_mem ?_
    rw [String.toList_ofList]
    exact fun hmem => hname.not_mem (by decide) (List.mem_append_left tail hmem)

/-- A text that is run as it is written, whatever the variables hold: a loop of such texts, or
another text that no values turn into a loop. -/
inductive Settled : String → Prop
  | loop {text : String} {l : Loop} (parse : Loop.parse? text = some l)
      (body : ∀ command ∈ l.body, Settled command) : Settled text
  | command {text : String} (plain : Loop.parse? text = none)
      (stays : ∀ store : Store, Loop.parse? (Text.trim (store.expand text)) = none) : Settled text

theorem RunsInside.exists_parse? {s t : Session ρ} {line command : String}
    (h : RunsInside settings s line t command) :
    ∃ l, Loop.parse? (Text.trim line) = some l := by
  induction h with
  | body loop _ _ => exact ⟨_, Command.parse?_of_ofLine loop⟩
  | inside _ _ ih => exact ih

/-- Inside a settled line all commands are settled. -/
theorem Settled.of_runsInside {s t : Session ρ} {line command : String}
    (hline : Settled (Text.trim line)) (h : RunsInside settings s line t command) :
    Settled command ∧ Text.trim command = command := by
  induction h with
  | body loop _ runs =>
    have hparse := Command.parse?_of_ofLine loop
    cases hline with
    | loop parse body =>
      obtain rfl := Option.some.inj (parse.symm.trans hparse)
      exact ⟨body _ runs.mem, (Loop.of_mem_body hparse runs.mem).1⟩
    | command plain _ =>
      rw [plain] at hparse
      cases hparse
  | @inside line command inner s t u outer runs ih ih' =>
    obtain ⟨hcommand, htrim⟩ := ih hline
    refine ih' ?_
    cases hparse : Loop.parse? command with
    | some l => rwa [Action.expandBody_of_eq_some hparse, htrim]
    | none =>
      obtain ⟨l, hl⟩ := runs.exists_parse?
      rw [Action.expandBody_of_eq_none hparse] at hl ⊢
      cases hcommand with
      | loop parse _ =>
        rw [parse] at hparse
        cases hparse
      | command _ stays =>
        rw [stays] at hl
        cases hl

/-- So none of them becomes a loop by being expanded. -/
theorem Settled.stays_of_runsInside {s t : Session ρ} {line command : String}
    (hline : Settled (Text.trim line)) (h : RunsInside settings s line t command)
    (hcommand : Loop.parse? command = none) (store : Store) :
    Loop.parse? (Text.trim (store.expand command)) = none := by
  cases (hline.of_runsInside h).1 with
  | loop parse _ =>
    rw [parse] at hcommand
    cases hcommand
  | command _ stays => exact stays store

/-! ## Sessions in which there are no files -/

/-- What is no file cannot be read. -/
theorem FileTree.exists_readText_eq_error {t : FileTree} {p : Path} (h : t.isFile p = false) :
    ∃ fault, t.readText p = .error fault := by
  rw [readText, read]
  rw [isFile] at h
  split
  · exact ⟨_, rfl⟩
  · rename_i content hcontent
    split at hcontent
    · cases hcontent
    · cases hcontent
    · rename_i hfind
      rw [hfind] at h
      cases h

namespace Law

section Inside

variable {law : Law ρ} {depth : Nat} {s t : Session ρ} {command : String}

theorem exists_holds_of_bodyRuns {body : List String}
    (hexecute : ∀ depth line, law.Governs (Action.execute settings depth line))
    (h : BodyRuns (Action.execute settings depth) body s t command) :
    ∃ trace, law.Holds s trace none t := by
  induction h with
  | first _ _ s => exact ⟨[], law.nil s⟩
  | later done _ ih =>
    obtain ⟨trace, hrest⟩ := ih
    exact ⟨_, law.append (hexecute _ _ _ _ done) hrest⟩

theorem exists_holds_of_loopRuns {var : String} {body values : List String}
    (hexecute : ∀ depth line, law.Governs (Action.execute settings depth line))
    (hset : ∀ var value, law.Governs (Action.setVariable var value : Action ρ Unit))
    (h : LoopRuns (Action.execute settings depth) var body values s t command) :
    ∃ trace, law.Holds s trace none t := by
  have hstored : ∀ value (s : Session ρ), law.Holds s [] none (Action.stored var value s) :=
    fun value s => hset var value s _ rfl
  induction h with
  | first runs =>
    obtain ⟨trace, hrest⟩ := exists_holds_of_bodyRuns hexecute runs
    exact ⟨_, law.append (hstored _ _) hrest⟩
  | later done _ ih =>
    obtain ⟨trace, hrest⟩ := ih
    have hbody := governs_runBody (hexecute _) _ _ _ done
    exact ⟨_, law.append (hstored _ _) (law.append hbody hrest)⟩

/-- Whatever a law says of lines and of binding variables, it says of the session in which a command
is run. -/
theorem exists_holds_of_runsInside {line : String}
    (hexecute : ∀ depth line, law.Governs (Action.execute settings depth line))
    (hset : ∀ var value, law.Governs (Action.setVariable var value : Action ρ Unit))
    (h : RunsInside settings s line t command) : ∃ trace, law.Holds s trace none t := by
  induction h with
  | body _ _ runs => exact exists_holds_of_loopRuns hexecute hset runs
  | inside _ _ ih ih' =>
    obtain ⟨trace, hfirst⟩ := ih
    obtain ⟨rest, hrest⟩ := ih'
    exact ⟨_, law.append hfirst hrest⟩

end Inside

/-- If there were no files, there are none. -/
def noFiles : Law Unit where
  Holds s _ _ t := s.files = FileTree.empty [] → t.files = FileTree.empty []
  nil _ h := h
  append h hrest hfiles := hrest (h hfiles)

theorem noFiles_basics : noFiles.Basics Sample.obliging where
  offer _ := governs_of_eq (fun _ => rfl) fun _ h => h
  call name args := governs_of_eq (fun s => Action.call_eq Sample.obliging name args s) fun _ h => h
  refuse line name := governs_of_eq (Action.refuseStage_eq line name) fun _ h => h
  raise _ _ := governs_of_eq (fun _ => rfl) fun _ h => h

theorem noFiles_runScript (run : String → Action Unit Unit) (path : Path) :
    noFiles.Governs (Action.runScript Sample.obliging run path) := by
  intro s r hr hfiles
  obtain ⟨fault, hfault⟩ := FileTree.exists_readText_eq_error (FileTree.isFile_empty path)
  rw [← hfiles] at hfault
  rw [Action.runScript_of_error hfault] at hr
  cases hr
  exact hfiles

theorem noFiles_execute (depth : Nat) (line : String) :
    noFiles.Governs (Action.execute Sample.obliging depth line) := by
  refine governs_execute noFiles_basics (fun _ _ h => h) (fun run hrun l => ?_)
    (fun run _ path => noFiles_runScript run path) depth line
  refine governs_runLoop noFiles_basics.raise (fun _ h => h) (fun value => ?_) (fun h => h) hrun
  exact governs_of_eq (fun _ => rfl) fun _ h => h

end Law

/-- Where there are no files, no text names one. -/
theorem isFile_of_runsInside {s t : Session Unit} {line command : String}
    (hfiles : s.files = FileTree.empty []) (h : RunsInside Sample.obliging s line t command)
    (p : Path) : t.files.isFile p = false := by
  obtain ⟨trace, hholds⟩ := Law.exists_holds_of_runsInside Law.noFiles_execute
    (fun var value => Law.governs_of_eq (fun _ => rfl) fun _ h => h) h
  rw [show t.files = _ from hholds hfiles]
  exact FileTree.isFile_empty p

/-! ## Runs -/

/-- **Every line comes to an end**, at a depth that only depends on its length, if no command of a
loop becomes a loop by being expanded.  No text that is run may name a file, since a script can run
itself. -/
theorem execute_terminates {s : Session ρ} {line : String} {depth : Nat}
    (hdepth : line.toList.length < depth) (hfile : s.files.isFile ⟨Text.trim line⟩ = false)
    (hfiles : ∀ t command, RunsInside settings s line t command →
      t.files.isFile ⟨Text.trim (Action.expandBody t.store command)⟩ = false)
    (hstays : ∀ t command, RunsInside settings s line t command →
      Loop.parse? command = none → Loop.parse? (Text.trim (t.store.expand command)) = none) :
    ∃ run, Action.execute settings depth line s = some run := by
  induction depth generalizing s line with
  | zero => omega
  | succ depth ih =>
    rw [Action.execute_eq]
    have hscript : ∀ path, Command.ofLine s.files line ≠ .script path :=
      Command.ofLine_ne_script hfile
    by_cases hloop : ∃ l, Command.ofLine s.files line = .loop l
    · obtain ⟨l, hl⟩ := hloop
      have hparse : Loop.parse? (Text.trim line) = some l := Command.parse?_of_ofLine hl
      rw [hl]
      refine Action.exists_runLoop_eq fun values hvalues t command hruns => ?_
      have hinside : RunsInside settings s line t command := .body hl hvalues hruns
      obtain ⟨-, hlength⟩ := Loop.of_mem_body hparse hruns.mem
      have hshorter : command.toList.length < depth := by
        have htrim := Text.length_trimChars_le line.toList
        rw [Text.trim, String.toList_ofList] at hlength
        omega
      cases hcommand : Loop.parse? command with
      | some inner =>
        have hexpand := Action.expandBody_of_eq_some hcommand t.store
        have hfile' := hfiles t command hinside
        rw [hexpand] at hfile' ⊢
        refine ih hshorter hfile' (fun u c hc => ?_) fun u c hc => ?_
        · exact hfiles u c (.inside hinside (by rwa [hexpand]))
        · exact hstays u c (.inside hinside (by rwa [hexpand]))
      | none =>
        -- The expanded command may be longer, but it is run at once.
        obtain ⟨depth, rfl⟩ := Nat.exists_eq_add_of_lt hshorter
        have hfile' := hfiles t command hinside
        rw [Action.expandBody_of_eq_none hcommand] at hfile' ⊢
        rw [Action.execute_eq]
        exact Action.exists_runCommand_eq _ _ _ (Command.ofLine_ne_script hfile')
          (Command.ofLine_ne_loop (hstays t command hinside hcommand)) t
    · exact Action.exists_runCommand_eq _ _ _ hscript (not_exists.1 hloop) s

/-- A loop over a list with references in it, and a loop in that. -/
def Sample.nestedText : String :=
  "foreach $list as $i do \x7b forloop 2 as $j do \x7b m $i $j \x7d; n $i \x7d"

/-- A session without files in which the list and one of its items are bound. -/
def Sample.listed : Session Unit :=
  { Sample.bare with store := (Store.empty.set "list" "[a $b]").set "b" "forloop 1 as $i do" }

theorem Sample.settled_nestedText : Settled (Text.trim Sample.nestedText) := by
  have hinner : Settled "forloop 2 as $j do \x7b m $i $j \x7d" := by
    refine .loop (l := ⟨.counted, "2", "j", ["m $i $j"]⟩) (by decide +kernel)
      (List.forall_mem_singleton.2 (.command (by decide +kernel) ?_))
    have htext : "m $i $j".toList = ['m'] ++ ' ' :: "$i $j".toList := rfl
    exact Loop.parse?_trim_expand_eq_none htext (by decide) (by decide) (by decide)
  refine .loop (l := ⟨.listed, "$list", "i", ["forloop 2 as $j do \x7b m $i $j \x7d", "n $i"]⟩)
    (by decide +kernel) (List.forall_mem_cons.2 ⟨hinner, List.forall_mem_singleton.2 ?_⟩)
  have htext : "n $i".toList = ['n'] ++ ' ' :: "$i".toList := rfl
  exact .command (by decide +kernel)
    (Loop.parse?_trim_expand_eq_none htext (by decide) (by decide) (by decide))

/-- The value of a variable looks like the start of a loop. -/
theorem execute_terminates_nestedText :
    Sample.listed.files.isFile ⟨Text.trim Sample.nestedText⟩ = false ∧
      (∀ t command, RunsInside Sample.obliging Sample.listed Sample.nestedText t command →
        t.files.isFile ⟨Text.trim (Action.expandBody t.store command)⟩ = false) ∧
      (∀ t command, RunsInside Sample.obliging Sample.listed Sample.nestedText t command →
        Loop.parse? command = none → Loop.parse? (Text.trim (t.store.expand command)) = none) ∧
      ∃ run, Action.execute Sample.obliging 100 Sample.nestedText Sample.listed = some run := by
  have hfile : Sample.listed.files.isFile ⟨Text.trim Sample.nestedText⟩ = false :=
    FileTree.isFile_empty _
  have hfiles : ∀ t command,
      RunsInside Sample.obliging Sample.listed Sample.nestedText t command →
        t.files.isFile ⟨Text.trim (Action.expandBody t.store command)⟩ = false :=
    fun t command h => isFile_of_runsInside rfl h _
  have hstays : ∀ t command,
      RunsInside Sample.obliging Sample.listed Sample.nestedText t command →
        Loop.parse? command = none → Loop.parse? (Text.trim (t.store.expand command)) = none :=
    fun t command h hcommand => Sample.settled_nestedText.stays_of_runsInside h hcommand t.store
  exact ⟨hfile, hfiles, hstays, execute_terminates (by decide) hfile hfiles hstays⟩

/-- A loop whose only command is a reference. -/
def Sample.selfReferenceText : String :=
  "forloop 1 as $i do \x7b $x \x7d"

/-- A session without files in which the reference stands for the loop itself. -/
def Sample.selfReference : Session Unit :=
  { Sample.bare with store := Store.empty.set "x" Sample.selfReferenceText }

/-- Whatever the depth, the loop ends up with running itself. -/
theorem execute_selfReferenceText {depth : Nat} {s : Session Unit}
    (hvalue : s.store.get? "x" = some Sample.selfReferenceText)
    (hfiles : s.files = FileTree.empty []) :
    Action.execute Sample.obliging depth Sample.selfReferenceText s = none := by
  induction depth generalizing s with
  | zero => rfl
  | succ depth ih =>
    have hline : Command.ofLine (FileTree.empty []) Sample.selfReferenceText =
        .loop ⟨.counted, "1", "i", ["$x"]⟩ := by decide +kernel
    have hexpand : Action.expandBody (s.store.set "i" "0") "$x" = Sample.selfReferenceText := by
      rw [Action.expandBody_set (by decide +kernel) (by decide +kernel)]
      have hends : EndsName [] := nofun
      show String.ofList (Reference.expandFrom s.store.valueOf 0 ('$' :: (['x'] ++ []))) = _
      rw [Reference.expandFrom_reference (by decide) hends, Store.valueOf,
        show String.ofList ['x'] = "x" from rfl, hvalue]
      rfl
    have hstored : (Action.stored "i" "0" s).store.get? "x" = some Sample.selfReferenceText := by
      show (s.store.set "i" "0").get? "x" = _
      rw [Store.get?_set, if_neg (by decide), hvalue]
    have hagain := ih hstored hfiles
    rw [Action.execute_eq, hfiles, hline, Action.runCommand, Action.runLoop_once, hexpand, hagain]
    rfl

/-- **A value that is a loop can run itself without end.** -/
theorem execute_selfReference :
    Sample.selfReference.files.isFile ⟨Text.trim Sample.selfReferenceText⟩ = false ∧
      (∀ t command,
        RunsInside Sample.obliging Sample.selfReference Sample.selfReferenceText t command →
          t.files.isFile ⟨Text.trim (Action.expandBody t.store command)⟩ = false) ∧
      ∀ depth,
        Action.execute Sample.obliging depth Sample.selfReferenceText Sample.selfReference = none :=
  ⟨FileTree.isFile_empty _, fun _ _ h => isFile_of_runsInside rfl h _,
    fun _ => execute_selfReferenceText rfl rfl⟩

end JsonShell
