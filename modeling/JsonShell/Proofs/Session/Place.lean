import JsonShell.Proofs.Session.Law

/-!
# The place of a session

A session knows which line of which script is being run, so that diagnostics can name it.  Two
things are shown about this place.

* A line and a script leave the place as they found it (`Law.samePlace_execute` and
  `Law.samePlace_runScript`).  A line of a script does not: it becomes the place, and the script
  itself goes back to the place before it.
* Nothing but the location in diagnostics depends on the place (`Action.placeless_execute`): from
  two sessions that differ in nothing else, runs agree once those locations are erased.  The
  commands of a script do not even see the place it is started from, since it is left before them.
-/

set_option autoImplicit false

namespace JsonShell

variable {ρ α β : Type} {settings : Settings ρ}

/-- The session at another place. -/
def Session.placed (place : Option (Path × Nat)) (s : Session ρ) : Session ρ :=
  { s with place := place }

/-- Sessions that agree without their places differ in the place only. -/
theorem Session.exists_eq_placed {s t : Session ρ} (h : s.placed none = t.placed none) :
    ∃ place, s = t.placed place := by
  cases s
  cases t
  cases h
  exact ⟨_, rfl⟩

/-! ## Lines keep the place -/

namespace Law

open JsonShell.Action

/-- The place is what it was. -/
def samePlace : Law ρ where
  Holds s _ _ t := t.place = s.place
  nil _ := rfl
  append h hrest := hrest.trans h

theorem samePlace_raise (cause : Failure) : samePlace.Governs (raise cause : Action ρ Unit) :=
  governs_of_eq (fun _ => rfl) fun _ => rfl

theorem samePlace_basics : samePlace.Basics settings where
  offer _ := governs_of_eq (fun _ => rfl) fun _ => rfl
  call name args := by
    intro s run hrun
    obtain ⟨modules, files, hsession⟩ := session_of_call hrun
    show run.session.place = s.place
    rw [hsession]
  refuse line name := governs_of_eq (refuseStage_eq line name) fun _ => rfl
  raise cause _ := samePlace_raise cause

theorem samePlace_runLoop (run : String → Action ρ Unit)
    (hrun : ∀ line, samePlace.Governs (run line)) (l : Loop) :
    samePlace.Governs (runLoop run l) :=
  governs_runLoop (fun cause _ => samePlace_raise cause) (fun _ => rfl)
    (fun _ => governs_of_eq (fun _ => rfl) fun _ => rfl) (fun h => h) hrun

/-- Whatever its lines do, a script goes back to the place from which it was started; one that
cannot be read or announced never leaves it. -/
theorem samePlace_runScript (run : String → Action ρ Unit) (path : Path) :
    samePlace.Governs (runScript settings run path) := by
  refine samePlace_basics.runScript_of_performScript (fun _ _ => rfl) fun text s r hr => ?_
  rw [performScript_eq] at hr
  obtain ⟨inner, _, rfl⟩ := Option.map_eq_some_iff.1 hr
  rfl

theorem samePlace_execute (depth : Nat) (line : String) :
    samePlace.Governs (execute settings depth line) :=
  governs_execute samePlace_basics (fun _ _ => rfl) samePlace_runLoop
    (fun run _ => samePlace_runScript run) depth line

end Law

/-! ## Runs without places -/

/-- The event without the location of a diagnostic. -/
def Event.unplaced : Event → Event
  | .reported d => .reported { d with location := .interactive }
  | e => e

/-- The run without the place of the session and the locations of diagnostics. -/
def Run.unplaced (run : Run ρ α) : Run ρ α :=
  ⟨run.session.placed none, run.trace.map Event.unplaced, run.result⟩

/-- Runs that agree without places differ in places only. -/
theorem Run.of_unplaced_eq {run run' : Run ρ α} (h : run'.unplaced = run.unplaced) :
    (∃ place, run'.session = run.session.placed place) ∧
      run'.trace.map Event.unplaced = run.trace.map Event.unplaced ∧ run'.result = run.result := by
  rw [unplaced, unplaced, mk.injEq] at h
  exact ⟨Session.exists_eq_placed h.1, h.2⟩

namespace Action

/-- The place makes no difference to the action but in the locations of diagnostics. -/
def Placeless (x : Action ρ α) : Prop :=
  ∀ s place, (x (s.placed place)).map Run.unplaced = (x s).map Run.unplaced

/-- A run that does not look at the place goes the same way from any other place. -/
theorem placeless_of_eq {x : Action ρ α} {f : Session ρ → Run ρ α} (hx : ∀ s, x s = some (f s))
    (hf : ∀ s place, (f (s.placed place)).unplaced = (f s).unplaced) : Placeless x := by
  intro s place
  rw [hx, hx, Option.map_some, Option.map_some, hf]

theorem placeless_pure (a : α) : Placeless (Action.pure a : Action ρ α) :=
  placeless_of_eq (pure_eq a) fun _ _ => rfl

/-- The same action goes on in the same way after runs that agree. -/
theorem bind_unplaced {x x' : Action ρ α} {f : α → Action ρ β} {s s' : Session ρ}
    (hx : (x' s').map Run.unplaced = (x s).map Run.unplaced) (hf : ∀ a, Placeless (f a)) :
    ((x' >>= f) s').map Run.unplaced = ((x >>= f) s).map Run.unplaced := by
  refine bind_seen (fun _ _ => List.map_append) hx fun a t t' hsame => ?_
  obtain ⟨place, rfl⟩ := Session.exists_eq_placed hsame
  exact hf a t' place

theorem placeless_bind {x : Action ρ α} {f : α → Action ρ β} (hx : Placeless x)
    (hf : ∀ a, Placeless (f a)) : Placeless (x >>= f) :=
  fun s place => bind_unplaced (hx s place) hf

/-- An action that first looks at the session, but not at the place. -/
theorem placeless_session_bind {f : Session ρ → Action ρ α}
    (hsame : ∀ s place, f (s.placed place) = f s) (hf : ∀ s, Placeless (f s)) :
    Placeless (session >>= f) := by
  intro s place
  rw [session_bind, session_bind, hsame]
  exact hf s s place

/-! ### Commands that run no lines -/

theorem writeRun_placed (failure : FileFault → Failure) (text : String) (s : Session ρ)
    (place : Option (Path × Nat)) :
    (writeRun failure text (s.placed place)).unplaced = (writeRun failure text s).unplaced := by
  rw [writeRun, writeRun, show (s.placed place).output = s.output from rfl]
  cases s.output.refusal? text <;> rfl

theorem placeless_write (failure : FileFault → Failure) (text : String) :
    Placeless (write failure text : Action ρ Unit) :=
  placeless_of_eq (write_eq failure text) (writeRun_placed failure text)

theorem placeless_print (text : String) : Placeless (print text : Action ρ Unit) :=
  placeless_write .io text

theorem placeless_announce (text : String) : Placeless (announce settings text) := by
  rw [announce]
  split
  · exact placeless_print text
  · exact placeless_pure ()

theorem placeless_assign (a : Assignment) : Placeless (assign a : Action ρ Unit) := by
  rw [assign]
  exact placeless_bind (placeless_print _) fun _ => placeless_of_eq (fun _ => rfl) fun _ _ => rfl

theorem placeless_raise (cause : Failure) : Placeless (raise cause : Action ρ α) :=
  placeless_of_eq (fun _ => rfl) fun _ _ => rfl

theorem callReported_placed (s : Session ρ) (place : Option (Path × Nat)) (command : String)
    (failure : Failure) :
    callReported settings (s.placed place) command failure =
      (callReported settings s command failure).placed place := by
  cases failure with
  | executionFailed name path reason =>
    rw [callReported, callReported, logged, logged]
    split <;> rfl
  | _ => rfl

theorem callReports_placed (s : Session ρ) (place : Option (Path × Nat)) (command : String)
    (failure : Failure) :
    (callReports settings (s.placed place) command failure).map Event.unplaced =
      (callReports settings s command failure).map Event.unplaced := by
  cases failure <;> rfl

theorem placeless_call (name : String) (args : List String) :
    Placeless (call settings name args) := by
  intro s place
  rw [call_eq, call_eq]
  have hanswer : answer settings name args (s.placed place) = answer settings name args s := rfl
  have hcalled : called settings name args (s.placed place) =
      (called settings name args s).placed place := rfl
  have htrace : callTrace settings name args (s.placed place) = callTrace settings name args s :=
    rfl
  rw [hanswer, hcalled, htrace]
  cases answer settings name args s with
  | ok record => rfl
  | error failure =>
    simp only [Option.map_some, Run.unplaced, List.map_append, callReports_placed,
      callReported_placed]
    rfl

theorem placeless_refuseStage (line name : String) :
    Placeless (refuseStage line name : Action ρ α) :=
  placeless_of_eq (refuseStage_eq line name) fun _ _ => rfl

theorem placeless_runBuiltin (b : Builtin) (args : List String) :
    Placeless (runBuiltin settings b args) := by
  rw [runBuiltin]
  refine placeless_session_bind (fun _ _ => rfl) fun s => ?_
  cases b.run (viewOf settings s) (args.map s.store.expand) with
  | ok text => exact placeless_write _ text
  | error reason => exact placeless_raise _

theorem placeless_runCall (name : String) (args : List String) :
    Placeless (runCall settings name args) := by
  rw [runCall]
  refine placeless_session_bind (fun _ _ => rfl) fun s => ?_
  refine placeless_bind (placeless_call _ _) fun record => ?_
  cases record with
  | some r => exact placeless_print _
  | none => exact placeless_pure ()

theorem placeless_callStage (line name : String) (args : List String) (r : Record) :
    Placeless (callStage settings line name args r) := by
  rw [callStage]
  refine placeless_session_bind (fun _ _ => rfl) fun s => ?_
  dsimp only
  split
  · exact placeless_refuseStage line _
  · exact placeless_call _ _

theorem placeless_runStages (line : String) :
    ∀ stages r, Placeless (runStages settings line stages r)
  | [], _ => placeless_print _
  | segment :: rest, r => by
    rw [runStages]
    split
    · exact placeless_runStages line rest r
    · refine placeless_bind (placeless_callStage line _ _ r) fun record => ?_
      cases record with
      | some next => exact placeless_runStages line rest next
      | none => exact placeless_pure ()
    · exact placeless_runStages line rest _

theorem placeless_runHead (segment : String) : Placeless (runHead settings segment) := by
  rw [runHead]
  split
  · exact placeless_pure none
  · exact placeless_pure _
  · exact placeless_session_bind (fun _ _ => rfl) fun s => placeless_call _ _

theorem placeless_runPipeline (line : String) : Placeless (runPipeline settings line) := by
  rw [runPipeline]
  split
  · exact placeless_pure ()
  · refine placeless_bind (placeless_runHead _) fun record => ?_
    cases record with
    | some r => exact placeless_runStages line _ r
    | none => exact placeless_pure ()

/-! ### Loops and scripts -/

variable {run : String → Action ρ Unit}

theorem placeless_runBody (hrun : ∀ line, Placeless (run line)) :
    ∀ body, Placeless (runBody run body)
  | [] => placeless_pure ()
  | _ :: rest =>
    placeless_session_bind (fun _ _ => rfl) fun _ =>
      placeless_bind (hrun _) fun _ => placeless_runBody hrun rest

theorem placeless_iterate (hrun : ∀ line, Placeless (run line)) (var : String)
    (body : List String) : ∀ values, Placeless (iterate run var body values)
  | [] => placeless_pure ()
  | _ :: rest =>
    placeless_bind (placeless_of_eq (fun _ => rfl) fun _ _ => rfl) fun _ =>
      placeless_bind (placeless_runBody hrun body) fun _ => placeless_iterate hrun var body rest

theorem placeless_runLoop (hrun : ∀ line, Placeless (run line)) (l : Loop) :
    Placeless (runLoop run l) := by
  intro s place
  have hiterate : ∀ values, _ := fun values => placeless_iterate hrun l.var l.body values s place
  have hstore : (s.placed place).store = s.store := rfl
  rw [runLoop_eq, runLoop_eq, hstore]
  cases { l with source := s.store.expand l.source }.values with
  | error fault => rfl
  | ok values =>
    -- What a loop makes of the run of its body is determined by that run without places.
    have hfinish : ∀ inner : Option (Run ρ Unit),
        (inner.map fun inner => (⟨removed l.var inner.session, .looped l.var :: inner.trace,
          inner.result⟩ : Run ρ Unit)).map Run.unplaced =
        (inner.map Run.unplaced).map fun inner => ⟨removed l.var inner.session,
          .looped l.var :: inner.trace, inner.result⟩ := by
      intro inner
      cases inner <;> rfl
    dsimp only
    rw [hfinish, hfinish, hiterate]

/-- A script does not even see the place from which it is started. -/
theorem placeless_performScript (path : Path) (text : String) :
    Placeless (performScript settings run path text) := by
  intro s place
  have houtside : ({ s.placed place with place := none } : Session ρ) = { s with place := none } :=
    rfl
  rw [performScript_eq, performScript_eq, houtside]
  cases runScriptLines settings run path (Script.commands text) { s with place := none } <;> rfl

theorem placeless_runScript (path : Path) : Placeless (runScript settings run path) := by
  rw [runScript]
  refine placeless_session_bind (fun _ _ => rfl) fun s => ?_
  cases s.files.readText path with
  | error fault => exact placeless_raise _
  | ok text =>
    have hopened : Placeless (emit (.opened path text) : Action ρ Unit) :=
      placeless_of_eq (fun _ => rfl) fun _ _ => rfl
    exact placeless_bind hopened fun _ => placeless_bind (placeless_announce _) fun _ =>
      placeless_performScript path text

/-- **The place of a session makes no difference to a line**, but for what its diagnostics say of
where they come from. -/
theorem placeless_execute : ∀ depth line, Placeless (execute settings depth line)
  | 0, _ => fun _ _ => rfl
  | depth + 1, line => by
    have ih := placeless_execute depth
    rw [execute]
    refine placeless_session_bind (fun _ _ => rfl) fun s => ?_
    cases Command.ofLine s.files line with
    | nothing => exact placeless_pure ()
    | script path => exact placeless_runScript path
    | assignment a => exact placeless_assign a
    | loop l => exact placeless_runLoop ih l
    | pipeline line => exact placeless_runPipeline line
    | builtin b args => exact placeless_runBuiltin b args
    | call name args => exact placeless_runCall name args

end Action

end JsonShell
