import JsonShell.Session.Execute

/-!
# What the constructs of a line do

An action is put together from smaller ones by `bind`, and a run of the whole is then put together
from runs of the parts.  This file says how, once for each construct, so that later proofs need not
take actions apart:

* `bind_inv` takes a run of two actions apart, and the `_bind` lemmas run a basic action first;
* `call_eq` gives the run of a call with all that is reported of it;
* `write_eq` and `assign_eq` give the run of what writes to the output, which may refuse the text;
* `runLoop_eq`, `performLine_eq` and `performScript_eq` give the run of a loop and of a script in
  terms of the run of what is inside;
* `execute_eq` gives the run of a line.

All of them are equations between runs, so they hold whether or not there is a run.
-/

set_option autoImplicit false

namespace JsonShell

variable {ρ α β : Type}

/-- The failure that a run ended with. -/
def Run.failure? (run : Run ρ α) : Option Failure :=
  match run.result with
  | .ok _ => none
  | .error failure => some failure

/-- A run before which something else happened. -/
def Run.after (trace : Trace) (run : Run ρ α) : Run ρ α :=
  { run with trace := trace ++ run.trace }

/-- What is left of a run when not all of the session and of the trace is looked at. -/
def Run.seen (session : Session ρ → Session ρ) (trace : Trace → Trace) (run : Run ρ α) : Run ρ α :=
  ⟨session run.session, trace run.trace, run.result⟩

/-- The event reports a failure, to the user or in the log. -/
def Event.IsReport : Event → Prop
  | .reported _ => True
  | .logged _ => True
  | _ => False

/-- Reports are passed over by whatever passes over both kinds of them. -/
theorem filterMap_reports {f : Event → Option β} {t : Trace} (h : ∀ e ∈ t, e.IsReport)
    (hreported : ∀ d, f (.reported d) = none) (hlogged : ∀ entry, f (.logged entry) = none) :
    t.filterMap f = [] := by
  refine List.filterMap_eq_nil_iff.2 fun e he => ?_
  have hreport : e.IsReport := h e he
  cases e with
  | reported d => exact hreported d
  | logged entry => exact hlogged entry
  | _ => exact hreport.elim

/-- What a module writes is passed over by whatever passes over each line of it. -/
theorem filterMap_chatter {f : Event → Option β} (h : ∀ text, f (.chatter text) = none)
    (chatter : List String) : (chatter.map Event.chatter).filterMap f = [] := by
  refine List.filterMap_eq_nil_iff.2 fun e he => ?_
  obtain ⟨text, _, rfl⟩ := List.mem_map.1 he
  exact h text

namespace Action

/-! ## One action and then another -/

theorem bind_of_ok {x : Action ρ α} {f : α → Action ρ β} {s t : Session ρ} {trace : Trace} {a : α}
    (h : x s = some ⟨t, trace, .ok a⟩) : (x >>= f) s = (f a t).map (Run.after trace) := by
  show bind x f s = _
  rw [bind, h]
  dsimp only
  cases f a t <;> rfl

theorem bind_of_error {x : Action ρ α} {f : α → Action ρ β} {s t : Session ρ} {trace : Trace}
    {failure : Failure} (h : x s = some ⟨t, trace, .error failure⟩) :
    (x >>= f) s = some ⟨t, trace, .error failure⟩ := by
  show bind x f s = _
  rw [bind, h]

theorem bind_of_none {x : Action ρ α} {f : α → Action ρ β} {s : Session ρ} (h : x s = none) :
    (x >>= f) s = none := by
  show bind x f s = _
  rw [bind, h]

/-- A run of two actions is a failing run of the first, or a run of each. -/
theorem bind_inv {x : Action ρ α} {f : α → Action ρ β} {s : Session ρ} {run : Run ρ β}
    (h : (x >>= f) s = some run) :
    (∃ t trace failure, x s = some ⟨t, trace, .error failure⟩ ∧
        run = ⟨t, trace, .error failure⟩) ∨
      ∃ t trace a rest, x s = some ⟨t, trace, .ok a⟩ ∧ f a t = some rest ∧
        run = rest.after trace := by
  rcases hx : x s with _ | ⟨t, trace, failure | a⟩
  · rw [bind_of_none hx] at h
    cases h
  · rw [bind_of_error hx, Option.some_inj] at h
    exact .inl ⟨t, trace, failure, rfl, h.symm⟩
  · rw [bind_of_ok hx, Option.map_eq_some_iff] at h
    obtain ⟨rest, hrest, rfl⟩ := h
    exact .inr ⟨t, trace, a, rest, rfl, hrest, rfl⟩

/-- Two runs that look alike go on to look alike, if what comes next does so from all sessions that
look alike. -/
theorem bind_seen {view : Session ρ → Session ρ} {read : Trace → Trace}
    (happend : ∀ trace rest, read (trace ++ rest) = read trace ++ read rest)
    {x y : Action ρ α} {f g : α → Action ρ β} {s s' : Session ρ}
    (hx : (x s).map (Run.seen view read) = (y s').map (Run.seen view read))
    (hf : ∀ a t t', view t = view t' →
      (f a t).map (Run.seen view read) = (g a t').map (Run.seen view read)) :
    ((x >>= f) s).map (Run.seen view read) = ((y >>= g) s').map (Run.seen view read) := by
  rcases h : x s with _ | ⟨t, trace, result⟩
  · rw [h, Option.map_none, eq_comm, Option.map_eq_none_iff] at hx
    rw [bind_of_none h, bind_of_none hx]
  · rw [h, Option.map_some, eq_comm, Option.map_eq_some_iff] at hx
    obtain ⟨⟨t', trace', result'⟩, h', hagree⟩ := hx
    simp only [Run.seen, Run.mk.injEq] at hagree
    obtain ⟨hsession, htrace, rfl⟩ := hagree
    cases result' with
    | error failure =>
      rw [bind_of_error h, bind_of_error h', Option.map_some, Option.map_some, Run.seen, Run.seen,
        hsession, htrace]
    | ok a =>
      have hafter : ∀ earlier : Trace, Run.seen view read ∘ Run.after earlier =
          (Run.after (read earlier) ∘ Run.seen view read : Run ρ β → Run ρ β) :=
        fun earlier => funext fun run => by
          rw [Function.comp_apply, Run.seen, Run.after, happend]
          rfl
      rw [bind_of_ok h, bind_of_ok h', Option.map_map, Option.map_map, hafter, hafter, htrace,
        ← Option.map_map, ← Option.map_map, hf a t t' hsession.symm]

theorem pure_eq (a : α) (s : Session ρ) : pure a s = some ⟨s, [], .ok a⟩ := rfl

/-- Nothing happened before. -/
theorem map_after_nil (run : Option (Run ρ α)) : run.map (Run.after []) = run := by
  cases run <;> rfl

theorem session_bind (f : Session ρ → Action ρ α) (s : Session ρ) :
    (session >>= f) s = f s s := by
  rw [bind_of_ok (show session s = some ⟨s, [], .ok s⟩ from rfl), map_after_nil]

theorem change_bind (g : Session ρ → Session ρ) (f : Unit → Action ρ α) (s : Session ρ) :
    (change g >>= f) s = f () (g s) := by
  rw [bind_of_ok (show change g s = some ⟨g s, [], .ok ()⟩ from rfl), map_after_nil]

theorem emit_bind (e : Event) (f : Unit → Action ρ α) (s : Session ρ) :
    (emit e >>= f) s = (f () s).map (Run.after [e]) :=
  bind_of_ok rfl

/-- An attempted action never fails, so what comes next always has its turn. -/
theorem attempt_bind (x : Action ρ α) (f : Except Failure α → Action ρ β) (s : Session ρ) :
    (attempt x >>= f) s =
      (x s).bind fun inner => (f inner.result inner.session).map (Run.after inner.trace) := by
  cases hx : x s with
  | none => exact bind_of_none (by rw [attempt, hx]; rfl)
  | some inner => exact bind_of_ok (by rw [attempt, hx]; rfl)

theorem ofExcept_eq (outcome : Except Failure α) (s : Session ρ) :
    ofExcept outcome s = some ⟨s, [], outcome⟩ := by
  cases outcome <;> rfl

/-! ## Calls -/

/-- The session after an entry in the failure log. -/
def logged (settings : Settings ρ) (entry : LogEntry) (s : Session ρ) : Session ρ :=
  match settings.log with
  | none => s
  | some path => { s with files := s.files.log path settings.time entry }

/-- The event of an entry in the failure log, if there is one. -/
def logTrace (settings : Settings ρ) (entry : LogEntry) : Trace :=
  if settings.log.isSome then [.logged entry] else []

theorem log_eq (settings : Settings ρ) (entry : LogEntry) (s : Session ρ) :
    log settings entry s = some ⟨logged settings entry s, logTrace settings entry, .ok ()⟩ := by
  rw [log, logged, logTrace]
  cases settings.log <;> rfl

/-- What is logged and reported of a call that failed. -/
def callReports (settings : Settings ρ) (s : Session ρ) (command : String) : Failure → Trace
  | .moduleNotFound name =>
    [.reported (.moduleNotFound (.ofPlace s.place) command name
      (settings.runner.fileName s.modules name) (settings.runner.searchPaths s.modules))]
  | .executionFailed name path reason =>
    logTrace settings (.execution command path reason) ++
      [.reported (.executionFailed (settings.runner.searchPaths s.modules) name path reason)]
  | _ => []

theorem isReport_of_mem_logTrace {settings : Settings ρ} {entry : LogEntry} {e : Event}
    (he : e ∈ logTrace settings entry) : e.IsReport := by
  rw [logTrace] at he
  split at he
  · rw [List.mem_singleton.1 he]
    trivial
  · cases he

/-- All that happens after a call has failed is that this is reported. -/
theorem isReport_of_mem_callReports {settings : Settings ρ} {s : Session ρ} {command : String}
    {failure : Failure} {e : Event} (he : e ∈ callReports settings s command failure) :
    e.IsReport := by
  cases failure with
  | moduleNotFound name =>
    rw [List.mem_singleton.1 he]
    trivial
  | executionFailed name path reason =>
    rcases List.mem_append.1 he with he | he
    · exact isReport_of_mem_logTrace he
    · rw [List.mem_singleton.1 he]
      trivial
  | _ => cases he

/-- The session after a call that failed has been logged and reported. -/
def callReported (settings : Settings ρ) (s : Session ρ) (command : String) :
    Failure → Session ρ
  | .executionFailed _ path reason => logged settings (.execution command path reason) s
  | _ => s

/-- An entry in the failure log changes nothing of a session but the files. -/
theorem exists_logged_eq (settings : Settings ρ) (entry : LogEntry) (s : Session ρ) :
    ∃ files, logged settings entry s = { s with files := files } := by
  rw [logged]
  split
  · exact ⟨s.files, rfl⟩
  · exact ⟨_, rfl⟩

theorem logged_modules (settings : Settings ρ) (entry : LogEntry) (s : Session ρ) :
    (logged settings entry s).modules = s.modules := by
  obtain ⟨files, h⟩ := exists_logged_eq settings entry s
  rw [h]

theorem reportCall_eq (settings : Settings ρ) (command : String) (failure : Failure)
    (s : Session ρ) :
    reportCall settings command failure s =
      some ⟨callReported settings s command failure, callReports settings s command failure,
        .ok ()⟩ := by
  cases failure with
  | moduleNotFound name => rfl
  | executionFailed name path reason =>
    rw [reportCall, bind_of_ok (log_eq settings _ s), session_bind, logged_modules]
    rfl
  | _ => rfl

/-- The session after a module was called. -/
def called (settings : Settings ρ) (name : String) (args : List String) (s : Session ρ) :
    Session ρ :=
  let i := settings.runner.invoke s.modules s.files name args
  { s with modules := i.runner, files := i.files }

/-- The answer of a module. -/
def answer (settings : Settings ρ) (name : String) (args : List String) (s : Session ρ) :
    Except Failure (Option Record) :=
  (settings.runner.invoke s.modules s.files name args).answer

/-- The events of a call: the lines that the module writes, and its answer. -/
def callTrace (settings : Settings ρ) (name : String) (args : List String) (s : Session ρ) :
    Trace :=
  (settings.runner.invoke s.modules s.files name args).chatter.map .chatter ++
    [.called name args (answer settings name args s)]

theorem calls_callTrace (settings : Settings ρ) (name : String) (args : List String)
    (s : Session ρ) : (callTrace settings name args s).calls = [(name, args)] := by
  rw [callTrace, Trace.calls_append, Trace.calls, filterMap_chatter fun _ => rfl]
  rfl

/-- A call gives the answer of the module, and a failure is reported before it is passed on. -/
theorem call_eq (settings : Settings ρ) (name : String) (args : List String) (s : Session ρ) :
    call settings name args s =
      match answer settings name args s with
      | .ok record => some ⟨called settings name args s, callTrace settings name args s, .ok record⟩
      | .error failure =>
        some ⟨callReported settings (called settings name args s) (callText name args) failure,
          callTrace settings name args s ++
            callReports settings (called settings name args s) (callText name args) failure,
          .error failure⟩ := by
  have hinvoke : invoke settings name args s =
      some ⟨called settings name args s, callTrace settings name args s,
        answer settings name args s⟩ := rfl
  rw [call, attempt_bind, hinvoke, Option.bind_some]
  dsimp only
  cases answer settings name args s with
  | ok record => simp only [pure_eq, Option.map_some, Run.after, List.append_nil]
  | error failure =>
    dsimp only
    rw [bind_of_ok (reportCall_eq settings _ failure _)]
    simp only [fail, Option.map_some, Run.after, List.append_nil]

/-- A call changes nothing of a session but the modules and the files. -/
theorem session_of_call {settings : Settings ρ} {name : String} {args : List String}
    {s : Session ρ} {run : Run ρ (Option Record)} (h : call settings name args s = some run) :
    ∃ modules files, run.session = { s with modules := modules, files := files } := by
  rw [call_eq] at h
  split at h
  · cases h
    exact ⟨_, _, rfl⟩
  · rename_i failure _
    cases h
    cases failure with
    | executionFailed _ path reason =>
      obtain ⟨files, hfiles⟩ := exists_logged_eq settings
        (.execution (callText name args) path reason) (called settings name args s)
      exact ⟨_, files, hfiles⟩
    | _ => exact ⟨_, _, rfl⟩

/-- What happens during a call: the module writes, answers, and its failure is reported. -/
theorem mem_of_call {settings : Settings ρ} {name : String} {args : List String} {s : Session ρ}
    {run : Run ρ (Option Record)} (h : call settings name args s = some run) {e : Event}
    (he : e ∈ run.trace) :
    (∃ text, e = .chatter text) ∨ (∃ answer, e = .called name args answer) ∨ e.IsReport := by
  have hcall : e ∈ callTrace settings name args s →
      (∃ text, e = .chatter text) ∨ (∃ answer, e = .called name args answer) ∨ e.IsReport := by
    intro he
    rcases List.mem_append.1 he with he | he
    · obtain ⟨text, _, rfl⟩ := List.mem_map.1 he
      exact .inl ⟨text, rfl⟩
    · exact .inr (.inl ⟨_, List.mem_singleton.1 he⟩)
  rw [call_eq] at h
  split at h
  · cases h
    exact hcall he
  · cases h
    rcases List.mem_append.1 he with he | he
    · exact hcall he
    · exact .inr (.inr (isReport_of_mem_callReports he))

/-! ## Writing -/

/-- The session after a text was offered to the output. -/
def offered (text : String) (s : Session ρ) : Session ρ :=
  { s with output := s.output.after text }

/-- The run of a write: the text is taken, or what the output did not take is a failure. -/
def writeRun (failure : FileFault → Failure) (text : String) (s : Session ρ) : Run ρ Unit :=
  match s.output.refusal? text with
  | none => ⟨offered text s, [.printed text], .ok ()⟩
  | some refusal =>
    ⟨offered text s, [.printed (refusal.part text), .raised (failure refusal.fault)],
      .error (failure refusal.fault)⟩

theorem write_eq (failure : FileFault → Failure) (text : String) (s : Session ρ) :
    write failure text s = some (writeRun failure text s) := by
  have hoffer : offer text s = some ⟨offered text s, [.printed (s.output.taken text)],
      .ok (s.output.refusal? text)⟩ := rfl
  rw [write, bind_of_ok hoffer, writeRun, Output.taken]
  cases s.output.refusal? text <;> rfl

/-- Nothing is called while a text is written. -/
theorem calls_writeRun (failure : FileFault → Failure) (text : String) (s : Session ρ) :
    (writeRun failure text s).trace.calls = [] := by
  rw [writeRun]
  split <;> rfl

theorem showRecord_eq (settings : Settings ρ) (r : Record) (s : Session ρ) :
    showRecord settings r s = some (writeRun .io (r.render settings.colors) s) :=
  write_eq Failure.io (r.render settings.colors) s

/-- A built-in command writes its text or fails for a reason of its own. -/
theorem runBuiltin_eq (settings : Settings ρ) (b : Builtin) (args : List String)
    (s : Session ρ) :
    runBuiltin settings b args s =
      some (match b.run (viewOf settings s) (args.map s.store.expand) with
        | .ok text => writeRun (fun fault => .builtin fault.message) text s
        | .error reason => ⟨s, [.raised (.builtin reason)], .error (.builtin reason)⟩) := by
  rw [runBuiltin, session_bind]
  cases b.run (viewOf settings s) (args.map s.store.expand) with
  | ok text => exact write_eq _ text s
  | error reason => rfl

/-! ## Assignments and unknown stages -/

/-- The session after a variable is bound. -/
def stored (name value : String) (s : Session ρ) : Session ρ :=
  { s with store := s.store.set name value }

/-- The run of an assignment: the variable is bound if the binding could be shown. -/
def assignRun (a : Assignment) (s : Session ρ) : Run ρ Unit :=
  match s.output.refusal? (bindingText a) with
  | none =>
    ⟨stored a.name a.value (offered (bindingText a) s),
      [.printed (bindingText a), .assigned a.name a.value], .ok ()⟩
  | some refusal =>
    ⟨offered (bindingText a) s,
      [.printed (refusal.part (bindingText a)), .raised (.io refusal.fault)],
      .error (.io refusal.fault)⟩

theorem assign_eq (a : Assignment) (s : Session ρ) : assign a s = some (assignRun a s) := by
  have hprint : print (bindingText a) s = some (writeRun .io (bindingText a) s) :=
    write_eq Failure.io (bindingText a) s
  rw [assignRun]
  rw [writeRun] at hprint
  cases hrefusal : s.output.refusal? (bindingText a) with
  | none =>
    rw [hrefusal] at hprint
    exact bind_of_ok hprint
  | some refusal =>
    rw [hrefusal] at hprint
    exact bind_of_error hprint

theorem refuseStage_eq (line name : String) (s : Session ρ) :
    (refuseStage line name : Action ρ α) s =
      some ⟨s, [.reported (.unknownStage (.ofPlace s.place) line name),
        .raised (.unknownStage name)], .error (.unknownStage name)⟩ := rfl

/-! ## Loops -/

/-- The session after a variable is unbound. -/
def removed (name : String) (s : Session ρ) : Session ρ :=
  { s with store := s.store.remove name }

/-- A loop whose source is no range fails at once.  Any other loop runs its body for the values and
then unbinds its variable, whatever the body came to. -/
theorem runLoop_eq (run : String → Action ρ Unit) (l : Loop) (s : Session ρ) :
    runLoop run l s =
      match { l with source := s.store.expand l.source }.values with
      | .error fault =>
        some ⟨s, [.raised (.invalidRange fault.message)], .error (.invalidRange fault.message)⟩
      | .ok values =>
        (iterate run l.var l.body values s).map fun inner =>
          ⟨removed l.var inner.session, .looped l.var :: inner.trace, inner.result⟩ := by
  rw [runLoop, session_bind]
  cases { l with source := s.store.expand l.source }.values with
  | error fault => rfl
  | ok values =>
    dsimp only
    rw [emit_bind, attempt_bind]
    cases iterate run l.var l.body values s with
    | none => rfl
    | some inner =>
      rw [removeVariable, Option.bind_some, change_bind, ofExcept_eq]
      simp only [Option.map_some, Run.after, List.append_nil, List.singleton_append]
      rfl

theorem runBody_singleton (run : String → Action ρ Unit) (command : String) (s : Session ρ) :
    runBody run [command] s = run (expandBody s.store command) s := by
  rw [runBody, session_bind]
  show bind (run (expandBody s.store command)) Action.pure s = _
  rw [bind_pure]

/-! ## Scripts -/

/-- The session in which a line of a script is run: the line is in the history, and it is the place
that is being run. -/
def atLine (path : Path) (line : Nat) (command : String) (s : Session ρ) : Session ρ :=
  { s with
    history := (s.history.add s.files command).1
    files := (s.history.add s.files command).2
    place := some (path, line) }

@[simp] theorem atLine_store (path : Path) (line : Nat) (command : String) (s : Session ρ) :
    (atLine path line command s).store = s.store := by
  rw [atLine]

theorem atLine_files (path : Path) (line : Nat) (command : String) (s : Session ρ) :
    (atLine path line command s).files = (s.history.add s.files command).2 := by
  rw [atLine]

/-- Nothing is announced in a session that is not verbose. -/
theorem announce_bind_of_eq_false {settings : Settings ρ} (h : settings.verbose = false)
    (text : String) (x : Action ρ α) (s : Session ρ) :
    (announce settings text >>= fun _ => x) s = x s := by
  have hannounce : announce settings text s = some ⟨s, [], .ok ()⟩ := by
    rw [announce, h]
    rfl
  rw [bind_of_ok hannounce, map_after_nil]

/-- What is logged and reported of a line of a script that failed. -/
def lineReports (settings : Settings ρ) (path : Path) (line : Nat) (command : String)
    (failure : Failure) : Trace :=
  logTrace settings (.script path line command failure.message) ++
    [.reported (.scriptFailed path line command failure.message)]

theorem isReport_of_mem_lineReports {settings : Settings ρ} {path : Path} {line : Nat}
    {command : String} {failure : Failure} {e : Event}
    (he : e ∈ lineReports settings path line command failure) : e.IsReport := by
  rcases List.mem_append.1 he with he | he
  · exact isReport_of_mem_logTrace he
  · rw [List.mem_singleton.1 he]
    trivial

/-- The end of a line of a script: a failure is logged, reported, and passed on in one layer. -/
def closeLine (settings : Settings ρ) (path : Path) (line : Nat) (command : String)
    (inner : Run ρ Unit) : Run ρ Unit :=
  match inner.result with
  | .ok () => ⟨inner.session, inner.trace ++ [.lineEnded], .ok ()⟩
  | .error failure =>
    ⟨logged settings (.script path line command failure.message) inner.session,
      inner.trace ++ .lineEnded :: lineReports settings path line command failure,
      .error (.script path line command failure)⟩

/-- After a line of a script nothing happens but that its end is noted and its failure reported. -/
theorem closeLine_trace (settings : Settings ρ) (path : Path) (line : Nat) (command : String)
    (inner : Run ρ Unit) : ∃ reports : Trace,
      (closeLine settings path line command inner).trace = inner.trace ++ .lineEnded :: reports ∧
        ∀ e ∈ reports, e.IsReport := by
  rw [closeLine]
  split
  · exact ⟨[], rfl, nofun⟩
  · exact ⟨_, rfl, fun e he => isReport_of_mem_lineReports he⟩

/-- The end of a line of a script changes nothing of the session but the files. -/
theorem exists_closeLine_session (settings : Settings ρ) (path : Path) (line : Nat)
    (command : String) (inner : Run ρ Unit) :
    ∃ files, (closeLine settings path line command inner).session =
      { inner.session with files := files } := by
  rw [closeLine]
  split
  · exact ⟨inner.session.files, rfl⟩
  · exact exists_logged_eq settings _ inner.session

/-- A line of a script runs in a session that knows of it, and ends as `closeLine` says. -/
theorem performLine_eq (settings : Settings ρ) (run : String → Action ρ Unit) (path : Path)
    (line : Nat) (command : String) (s : Session ρ) :
    performLine settings run path line command s =
      (run command (atLine path line command s)).map fun inner =>
        (closeLine settings path line command inner).after [.lineStarted path line command] := by
  rw [performLine, remember, change_bind, setPlace, change_bind, emit_bind, attempt_bind]
  show Option.map _ (Option.bind (run command (atLine path line command s)) _) = _
  cases run command (atLine path line command s) with
  | none => rfl
  | some inner =>
    rw [Option.bind_some, emit_bind]
    rcases inner with ⟨t, trace, failure | _⟩
    · dsimp only [closeLine]
      rw [bind_of_ok (log_eq settings _ t), report, emit_bind]
      simp [fail, Run.after, lineReports]
    · simp [closeLine, pure_eq, Run.after]

/-- The commands of a text are run outside all scripts, and the place is then what it was before. -/
theorem performScript_eq (settings : Settings ρ) (run : String → Action ρ Unit) (path : Path)
    (text : String) (s : Session ρ) :
    performScript settings run path text s =
      (runScriptLines settings run path (Script.commands text) { s with place := none }).map
        fun inner => ⟨{ inner.session with place := s.place }, inner.trace, inner.result⟩ := by
  rw [performScript, session_bind, setPlace, change_bind, attempt_bind]
  cases runScriptLines settings run path (Script.commands text) { s with place := none } with
  | none => rfl
  | some inner =>
    rw [Option.bind_some, setPlace, change_bind, ofExcept_eq]
    simp [Run.after]

/-- A script that cannot be read fails at once. -/
theorem runScript_of_error {settings : Settings ρ} {run : String → Action ρ Unit} {path : Path}
    {s : Session ρ} {fault : FileFault} (h : s.files.readText path = .error fault) :
    runScript settings run path s = some ⟨s, [.raised (.io fault)], .error (.io fault)⟩ := by
  rw [runScript, session_bind, h]
  rfl

/-- Any other script is announced, and then its commands are run. -/
theorem runScript_of_ok {settings : Settings ρ} {run : String → Action ρ Unit} {path : Path}
    {s : Session ρ} {text : String} (h : s.files.readText path = .ok text) :
    runScript settings run path s =
      ((announce settings ("Running script: " ++ path.text ++ "\n") >>= fun _ =>
        performScript settings run path text) s).map (Run.after [.opened path text]) := by
  rw [runScript, session_bind, h]
  exact emit_bind ..

/-! ## Lines -/

theorem execute_eq (settings : Settings ρ) (depth : Nat) (line : String) (s : Session ρ) :
    execute settings (depth + 1) line s =
      runCommand settings (execute settings depth) (Command.ofLine s.files line) s := by
  rw [execute, session_bind]

end Action

end JsonShell
