import JsonShell.Proofs.Session.Run

/-!
# Laws of runs

Much of what is true of running a line is true of each of its steps and of steps one after the
other: that some variable is kept, that nothing happens after a failure, that a failure is reported.
A *law* is such a relation between the session before, the trace, the failure at the end, if any,
and the session after: it holds of doing nothing, and it is kept by `append`.

A law governs an action if it holds of every run of it.  Actions put together from governed ones are
governed, so a law governs all lines (`Law.governs_execute`) as soon as

* it governs what lines do by themselves (`Law.Basics`), and
* it governs a loop and a script whenever it governs the lines that these run.

The second point is left to each law, since a loop unbinds its variable and a script wraps failures:
neither is just one step after the other.
-/

set_option autoImplicit false

namespace JsonShell

variable {ρ α β : Type}

/-- A relation between the session before a run, the trace, the failure at its end and the session
after it, which holds of no steps and of two runs one after the other. -/
structure Law (ρ : Type) where
  /-- The law holds of such a run. -/
  Holds : Session ρ → Trace → Option Failure → Session ρ → Prop
  nil : ∀ s, Holds s [] none s
  append : ∀ {s t u : Session ρ} {trace rest : Trace} {failure : Option Failure},
    Holds s trace none t → Holds t rest failure u → Holds s (trace ++ rest) failure u

/-- Commands that fail for such a cause of their own do not report it. -/
def Failure.IsSilent : Failure → Prop
  | .invalidRange _ | .builtin _ | .io _ => True
  | _ => False

/-- The command is not an assignment and runs no further lines. -/
def Command.IsSimple : Command → Prop
  | .nothing | .pipeline _ | .builtin _ _ | .call _ _ => True
  | .script _ | .assignment _ | .loop _ => False

namespace Law

open JsonShell.Action

/-- The law holds of every run of the action. -/
def Governs (law : Law ρ) (x : Action ρ α) : Prop :=
  ∀ s run, x s = some run → law.Holds s run.trace run.failure? run.session

variable {law : Law ρ} {settings : Settings ρ}

/-! ## Actions one after the other -/

theorem governs_of_eq {x : Action ρ α} {f : Session ρ → Run ρ α} (hx : ∀ s, x s = some (f s))
    (h : ∀ s, law.Holds s (f s).trace (f s).failure? (f s).session) : law.Governs x := by
  intro s run hrun
  rw [hx s, Option.some_inj] at hrun
  rw [← hrun]
  exact h s

/-- What follows from a law that governs an action governs it as well. -/
theorem Governs.mono {law' : Law ρ} {x : Action ρ α} (hx : law.Governs x)
    (h : ∀ {s t trace failure}, law.Holds s trace failure t → law'.Holds s trace failure t) :
    law'.Governs x :=
  fun s run hrun => h (hx s run hrun)

theorem governs_pure (a : α) : law.Governs (Action.pure a) :=
  governs_of_eq (pure_eq a) law.nil

theorem governs_bind {x : Action ρ α} {f : α → Action ρ β} (hx : law.Governs x)
    (hf : ∀ a, law.Governs (f a)) : law.Governs (x >>= f) := by
  intro s run hrun
  rcases bind_inv hrun with ⟨t, trace, failure, hfail, rfl⟩ | ⟨t, trace, a, rest, hok, hrest, rfl⟩
  · exact hx s _ hfail
  · exact law.append (hx s _ hok) (hf a t rest hrest)

/-- An action that first looks at the session. -/
theorem governs_session_bind {f : Session ρ → Action ρ α} (hf : ∀ s, law.Governs (f s)) :
    law.Governs (session >>= f) := by
  intro s run hrun
  rw [session_bind] at hrun
  exact hf s s run hrun

/-- An attempted action is governed by a law that does not look at failures. -/
theorem governs_attempt {x : Action ρ α}
    (hblind : ∀ {s t trace failure}, law.Holds s trace failure t → law.Holds s trace none t)
    (hx : law.Governs x) : law.Governs (attempt x) := by
  intro s run hrun
  obtain ⟨inner, hinner, rfl⟩ := Option.map_eq_some_iff.1 hrun
  exact hblind (hx s inner hinner)

/-! ## Commands that run no lines -/

/-- The law governs what lines do by themselves, assignments aside. -/
structure Basics (law : Law ρ) (settings : Settings ρ) : Prop where
  offer : ∀ text, law.Governs (offer text)
  call : ∀ name args, law.Governs (call settings name args)
  refuse : ∀ line name, law.Governs (refuseStage line name : Action ρ (Option Record))
  raise : ∀ cause, cause.IsSilent → law.Governs (raise cause : Action ρ Unit)

/-- A write is governed if the text can be offered and each refusal can be raised. -/
theorem governs_write {failure : FileFault → Failure} {text : String}
    (hoffer : law.Governs (offer text))
    (hraise : ∀ fault, law.Governs (raise (failure fault) : Action ρ Unit)) :
    law.Governs (write failure text) := by
  rw [Action.write]
  refine governs_bind hoffer fun answer => ?_
  cases answer with
  | none => exact governs_pure ()
  | some refusal => exact hraise refusal.fault

theorem Basics.print (basics : law.Basics settings) (text : String) : law.Governs (print text) :=
  governs_write (basics.offer text) fun _ => basics.raise _ trivial

theorem Basics.announce (basics : law.Basics settings) (text : String) :
    law.Governs (announce settings text) := by
  rw [Action.announce]
  split
  · exact basics.print text
  · exact governs_pure ()

theorem Basics.announce_bind (basics : law.Basics settings) (text : String)
    {x : Action ρ α} (hx : law.Governs x) :
    law.Governs (Action.announce settings text >>= fun _ => x) :=
  governs_bind (basics.announce text) fun _ => hx

/-- An assignment is governed by a law that allows for binding its variable. -/
theorem Basics.assign (basics : law.Basics settings) {a : Assignment}
    (hstored : ∀ s, law.Holds s [.assigned a.name a.value] none (stored a.name a.value s)) :
    law.Governs (assign a) := by
  rw [Action.assign]
  refine governs_bind (basics.print _) fun _ => ?_
  exact governs_of_eq (fun _ => rfl) hstored

theorem Basics.showRecord (basics : law.Basics settings) (r : Record) :
    law.Governs (showRecord settings r) :=
  basics.print _

theorem Basics.runBuiltin (basics : law.Basics settings) (b : Builtin) (args : List String) :
    law.Governs (runBuiltin settings b args) := by
  rw [Action.runBuiltin]
  refine governs_session_bind fun s => ?_
  cases b.run (viewOf settings s) (args.map s.store.expand) with
  | ok text => exact governs_write (basics.offer text) fun _ => basics.raise _ trivial
  | error reason => exact basics.raise _ trivial

theorem Basics.runCall (basics : law.Basics settings) (name : String) (args : List String) :
    law.Governs (runCall settings name args) := by
  rw [Action.runCall]
  refine governs_session_bind fun s => governs_bind (basics.call _ _) fun answer => ?_
  cases answer with
  | some r => exact basics.showRecord r
  | none => exact governs_pure ()

theorem Basics.callStage (basics : law.Basics settings) (line name : String)
    (args : List String) (r : Record) : law.Governs (callStage settings line name args r) := by
  rw [Action.callStage]
  refine governs_session_bind fun s => ?_
  dsimp only
  split
  · exact basics.refuse line _
  · exact basics.call _ _

theorem Basics.runStages (basics : law.Basics settings) (line : String) :
    ∀ stages r, law.Governs (runStages settings line stages r)
  | [], r => basics.showRecord r
  | segment :: rest, r => by
    rw [Action.runStages]
    split
    · exact basics.runStages line rest r
    · refine governs_bind (basics.callStage line _ _ r) fun answer => ?_
      cases answer with
      | some next => exact basics.runStages line rest next
      | none => exact governs_pure ()
    · exact basics.runStages line rest _

theorem Basics.runHead (basics : law.Basics settings) (segment : String) :
    law.Governs (runHead settings segment) := by
  rw [Action.runHead]
  split
  · exact governs_pure none
  · exact governs_pure _
  · exact governs_session_bind fun s => basics.call _ _

theorem Basics.runPipeline (basics : law.Basics settings) (line : String) :
    law.Governs (runPipeline settings line) := by
  rw [Action.runPipeline]
  split
  · exact governs_pure ()
  · refine governs_bind (basics.runHead _) fun record => ?_
    cases record with
    | some r => exact basics.runStages line _ r
    | none => exact governs_pure ()

theorem Basics.runCommand (basics : law.Basics settings) (run : String → Action ρ Unit)
    {c : Command} (hc : c.IsSimple) : law.Governs (runCommand settings run c) := by
  cases c with
  | nothing => exact governs_pure ()
  | pipeline line => exact basics.runPipeline line
  | builtin b args => exact basics.runBuiltin b args
  | call name args => exact basics.runCall name args
  | _ => exact hc.elim

theorem Basics.mono {law' : Law ρ} (basics : law.Basics settings)
    (h : ∀ {s t trace failure}, law.Holds s trace failure t → law'.Holds s trace failure t) :
    law'.Basics settings where
  offer text := (basics.offer text).mono h
  call name args := (basics.call name args).mono h
  refuse line name := (basics.refuse line name).mono h
  raise cause silent := (basics.raise cause silent).mono h

/-! ## Loops and scripts -/

variable {run : String → Action ρ Unit}

theorem governs_runBody (hrun : ∀ line, law.Governs (run line)) :
    ∀ body, law.Governs (runBody run body)
  | [] => governs_pure ()
  | _ :: rest =>
    governs_session_bind fun _ => governs_bind (hrun _) fun _ => governs_runBody hrun rest

theorem governs_iterate {var : String} (hset : ∀ value, law.Governs (setVariable var value))
    (hrun : ∀ line, law.Governs (run line)) (body : List String) :
    ∀ values, law.Governs (iterate run var body values)
  | [] => governs_pure ()
  | value :: rest =>
    governs_bind (hset value) fun _ => governs_bind (governs_runBody hrun body) fun _ =>
      governs_iterate hset hrun body rest

/-- A loop is governed by a law that allows for binding and unbinding its variable. -/
theorem governs_runLoop {l : Loop}
    (hraise : ∀ cause, cause.IsSilent → law.Governs (raise cause : Action ρ Unit))
    (hlooped : ∀ s, law.Holds s [.looped l.var] none s)
    (hset : ∀ value, law.Governs (setVariable l.var value))
    (hremoved : ∀ {s t trace failure}, law.Holds s trace failure t →
      law.Holds s trace failure (removed l.var t))
    (hrun : ∀ line, law.Governs (run line)) : law.Governs (runLoop run l) := by
  intro s r hr
  rw [runLoop_eq] at hr
  split at hr
  · cases hr
    exact hraise (.invalidRange _) trivial s _ rfl
  · obtain ⟨inner, hinner, rfl⟩ := Option.map_eq_some_iff.1 hr
    have hiterate := governs_iterate hset hrun l.body _ s inner hinner
    exact law.append (hlooped s) (hremoved hiterate)

/-- A line of a script is governed by a law that does not look at failures if the law allows for its
start and its end. -/
theorem governs_performLine {path : Path} {line : Nat} {command : String}
    (hblind : ∀ {s t trace failure failure'}, law.Holds s trace failure t →
      law.Holds s trace failure' t)
    (hstart : ∀ s, law.Holds s [.lineStarted path line command] none (atLine path line command s))
    (hend : ∀ inner : Run ρ Unit, ∀ reports : Trace, (∀ e ∈ reports, e.IsReport) →
      law.Holds inner.session (.lineEnded :: reports) none
        (closeLine settings path line command inner).session)
    (hrun : ∀ line, law.Governs (run line)) :
    law.Governs (performLine settings run path line command) := by
  intro s r hr
  rw [performLine_eq] at hr
  obtain ⟨inner, hinner, rfl⟩ := Option.map_eq_some_iff.1 hr
  obtain ⟨reports, htrace, hreports⟩ := closeLine_trace settings path line command inner
  have hbody : law.Holds _ inner.trace none inner.session := hblind (hrun _ _ _ hinner)
  rw [Run.after, htrace]
  exact hblind (law.append (hstart s) (law.append hbody (hend inner reports hreports)))

theorem governs_runScriptLines {path : Path} :
    ∀ commands : List (Nat × String),
      (∀ line command, (line, command) ∈ commands →
        law.Governs (runScriptLine settings run path line command)) →
      law.Governs (runScriptLines settings run path commands)
  | [], _ => governs_pure ()
  | (line, command) :: rest, hline =>
    governs_bind (hline line command List.mem_cons_self) fun _ =>
      governs_runScriptLines rest fun l c hlc => hline l c (List.mem_cons_of_mem _ hlc)

/-- The commands of a script are governed by a law that allows for leaving the place and going back
to it. -/
theorem governs_performScript {path : Path} {text : String}
    (hplace : ∀ {s t : Session ρ} {trace failure},
      law.Holds { s with place := none } trace failure t →
        law.Holds s trace failure { t with place := s.place })
    (hlines : law.Governs (runScriptLines settings run path (Script.commands text))) :
    law.Governs (performScript settings run path text) := by
  intro s r hr
  rw [performScript_eq] at hr
  obtain ⟨inner, hinner, rfl⟩ := Option.map_eq_some_iff.1 hr
  exact hplace (hlines _ inner hinner)

/-- A script is governed by a law that allows for reading it and governs the commands of its text. -/
theorem Basics.runScript_of_performScript (basics : law.Basics settings) {path : Path}
    (hopened : ∀ s text, law.Holds s [.opened path text] none s)
    (hperform : ∀ text, law.Governs (performScript settings run path text)) :
    law.Governs (runScript settings run path) := by
  intro s r hr
  cases hread : s.files.readText path with
  | error fault =>
    rw [runScript_of_error hread] at hr
    cases hr
    exact basics.raise (.io fault) trivial s _ rfl
  | ok text =>
    rw [runScript_of_ok hread] at hr
    obtain ⟨inner, hinner, rfl⟩ := Option.map_eq_some_iff.1 hr
    exact law.append (hopened s text) (basics.announce_bind _ (hperform text) s inner hinner)

/-- So it is by one that also allows for leaving the place and governs each line. -/
theorem Basics.runScript (basics : law.Basics settings) {path : Path}
    (hopened : ∀ s text, law.Holds s [.opened path text] none s)
    (hplace : ∀ {s t : Session ρ} {trace failure},
      law.Holds { s with place := none } trace failure t →
        law.Holds s trace failure { t with place := s.place })
    (hline : ∀ line command, law.Governs (performLine settings run path line command)) :
    law.Governs (runScript settings run path) :=
  basics.runScript_of_performScript hopened fun _ => governs_performScript hplace
    (governs_runScriptLines _ fun line command _ => basics.announce_bind _ (hline line command))

/-! ## All lines -/

/-- **A law that is kept by loops and scripts governs every line.** -/
theorem governs_execute (basics : law.Basics settings)
    (hstored : ∀ (a : Assignment) s,
      law.Holds s [.assigned a.name a.value] none (stored a.name a.value s))
    (hloop : ∀ run, (∀ line, law.Governs (run line)) → ∀ l, law.Governs (runLoop run l))
    (hscript : ∀ run, (∀ line, law.Governs (run line)) →
      ∀ path, law.Governs (runScript settings run path)) :
    ∀ depth line, law.Governs (execute settings depth line)
  | 0, _ => fun _ _ hrun => nomatch hrun
  | depth + 1, line => by
    have ih := governs_execute basics hstored hloop hscript depth
    intro s run hrun
    rw [execute_eq] at hrun
    generalize Command.ofLine s.files line = c at hrun
    cases c with
    | script path => exact hscript _ ih path s run hrun
    | assignment a => exact basics.assign (hstored a) s run hrun
    | loop l => exact hloop _ ih l s run hrun
    | _ => exact basics.runCommand _ (by trivial) s run hrun

end Law

end JsonShell
