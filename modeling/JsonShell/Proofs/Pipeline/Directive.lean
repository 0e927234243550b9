import JsonShell.Proofs.Session.Branch
import JsonShell.Proofs.Session.Deed
import Mathlib.Logic.Relation

/-!
# Where display directives matter

A display directive only matters if the record it changes is shown with it, and nobody looks at the
display before that.  So it can be dropped if a later stage chooses a display again or calls a
module, whose answer is another record, and it can be exchanged with a selection next to it.  These
two are the display steps (`DisplayStep`).

Every pipeline has a normal form under display steps (`Stage.displayLast`): at most one display
directive is left, and it is the last stage.

A display step changes nothing of a run but the text of a report, which quotes the line
(`execute_displaySteps`).  On one line the stages before and after a step even are the same action
(`Action.runRead_eq_of_step`), since they hand the same outputs to the same modules; and what the
line is only makes a difference to the report of an unknown stage (`Action.alike_runRead`).
-/

set_option autoImplicit false

namespace JsonShell

/-! ## Display steps -/

/-- A change of the stages of a pipeline that makes no difference. -/
inductive DisplayStep : List Stage → List Stage → Prop
  /-- A display directive is dropped if another one or a module comes later. -/
  | drop (before : List Stage) (mode : Display) (after : List Stage)
      (h : (∃ later, .display later ∈ after) ∨ ∃ name args, .call name args ∈ after) :
      DisplayStep (before ++ .display mode :: after) (before ++ after)
  /-- A display directive is exchanged with the selection after it. -/
  | exchange (before : List Stage) (mode : Display) (fields : List String) (after : List Stage) :
      DisplayStep (before ++ .display mode :: .select fields :: after)
        (before ++ .select fields :: .display mode :: after)

theorem DisplayStep.cons {stages stages' : List Stage} (h : DisplayStep stages stages')
    (stage : Stage) : DisplayStep (stage :: stages) (stage :: stages') := by
  cases h with
  | drop before mode after h => exact .drop (stage :: before) mode after h
  | exchange before mode fields after => exact .exchange (stage :: before) mode fields after

/-- The stages are selections only. -/
def Stage.AllSelect (stages : List Stage) : Prop :=
  ∀ stage ∈ stages, stage.fields?.isSome

instance : DecidablePred Stage.AllSelect :=
  fun _ => inferInstanceAs (Decidable (∀ _ ∈ _, _))

/-- A stage that is no selection chooses a display or calls a module. -/
theorem Stage.exists_of_not_allSelect {stages : List Stage} (h : ¬AllSelect stages) :
    (∃ mode, .display mode ∈ stages) ∨ ∃ name args, .call name args ∈ stages := by
  simp only [AllSelect, Classical.not_forall] at h
  obtain ⟨stage, hmem, hstage⟩ := h
  cases stage with
  | select fields => exact absurd rfl hstage
  | display mode => exact .inl ⟨mode, hmem⟩
  | call name args => exact .inr ⟨name, args, hmem⟩

/-- The normal form of stages: each display directive but one after the last module is dropped, and
that one is the last stage. -/
def Stage.displayLast : List Stage → List Stage
  | [] => []
  | .display mode :: rest =>
    if AllSelect rest then rest ++ [.display mode] else displayLast rest
  | stage :: rest => stage :: displayLast rest

example : Stage.displayLast [.display .table, .call "m" [], .display .pretty, .display .table,
    .select ["a"]] = [.call "m" [], .select ["a"], .display .table] := by decide

/-- A display directive in front of selections can be put behind them. -/
theorem reflTransGen_append_display (mode : Display) {stages : List Stage}
    (h : Stage.AllSelect stages) :
    Relation.ReflTransGen DisplayStep (.display mode :: stages) (stages ++ [.display mode]) := by
  induction stages with
  | nil => exact .refl
  | cons stage rest ih =>
    obtain ⟨hstage, hrest⟩ := List.forall_mem_cons.1 h
    cases stage with
    | select fields =>
      exact .head (.exchange [] mode fields rest)
        ((ih hrest).lift (.select fields :: ·) fun _ _ hstep => hstep.cons _)
    | display later => cases hstage
    | call name args => cases hstage

/-- **Display steps lead to the normal form.** -/
theorem reflTransGen_displayLast (stages : List Stage) :
    Relation.ReflTransGen DisplayStep stages (Stage.displayLast stages) := by
  fun_induction Stage.displayLast stages with
  | case1 => exact .refl
  | case2 mode rest h => exact reflTransGen_append_display mode h
  | case3 mode rest h ih =>
    exact .head (.drop [] mode rest (Stage.exists_of_not_allSelect h)) ih
  | case4 stage rest h ih =>
    exact ih.lift (stage :: ·) fun _ _ hstep => hstep.cons _

/-- In the normal form only the last stage can choose a display. -/
theorem Stage.mode?_of_mem_dropLast_displayLast (stages : List Stage) :
    ∀ stage ∈ (displayLast stages).dropLast, stage.mode? = none := by
  fun_induction displayLast stages with
  | case1 => exact List.forall_mem_nil _
  | case2 mode rest h =>
    rw [List.dropLast_concat]
    intro stage hstage
    cases stage with
    | display later => exact absurd (h _ hstage) Bool.false_ne_true
    | _ => rfl
  | case3 mode rest h ih => exact ih
  | case4 stage rest h ih =>
    intro other hother
    cases hlast : displayLast rest with
    | nil =>
      rw [hlast] at hother
      cases hother
    | cons next more =>
      rw [hlast, List.dropLast_cons_cons] at hother
      rw [hlast] at ih
      rcases List.mem_cons.1 hother with rfl | hother
      · cases other with
        | display mode => exact absurd rfl (h mode)
        | _ => rfl
      · exact ih other hother

/-! ## Stages that have been read -/

namespace Action

variable {ρ : Type} {settings : Settings ρ} {stages stages' : List Stage} {line : String}

/-- Runs stages that have been read. -/
def runRead (settings : Settings ρ) (line : String) (stages : List Stage) (r : Record) :
    Action ρ Unit :=
  runLegs settings line (Plan.legsOf stages).2 (Plan.legsOf stages).1 r

theorem runRead_call (name : String) (args : List String) (rest : List Stage) (r : Record) :
    runRead settings line (.call name args :: rest) r =
      callStage settings line name args r >>= fun answer =>
        answer.elim (pure ()) (runRead settings line rest) := by
  refine congrArg _ (funext fun answer => ?_)
  cases answer <;> rfl

theorem runRead_directive {directive : Stage} (h : ∀ name args, directive ≠ .call name args)
    (rest : List Stage) (r : Record) :
    runRead settings line (directive :: rest) r = runRead settings line rest (directive.apply r) :=
  (runLegs_directive rest r h).symm

theorem runRead_select (fields : List String) (rest : List Stage) (r : Record) :
    runRead settings line (.select fields :: rest) r =
      runRead settings line rest (r.select fields) :=
  runRead_directive (fun _ _ => Stage.noConfusion) rest r

theorem runRead_display (mode : Display) (rest : List Stage) (r : Record) :
    runRead settings line (.display mode :: rest) r =
      runRead settings line rest { r with display := mode } :=
  runRead_directive (fun _ _ => Stage.noConfusion) rest r

/-- What is done with a record after some stages depends on what is done after them. -/
theorem runRead_append_congr
    (h : ∀ r, runRead settings line stages r = runRead settings line stages' r)
    (before : List Stage) (r : Record) :
    runRead settings line (before ++ stages) r = runRead settings line (before ++ stages') r := by
  induction before generalizing r with
  | nil => exact h r
  | cons stage rest ih =>
    rw [List.cons_append, List.cons_append]
    cases stage with
    | select fields => rw [runRead_select, runRead_select, ih]
    | display mode => rw [runRead_display, runRead_display, ih]
    | call name args =>
      rw [runRead_call, runRead_call]
      refine congrArg _ (funext fun answer => ?_)
      cases answer with
      | none => rw [Option.elim_none, Option.elim_none]
      | some next => exact ih next

/-- The display of a record is not seen if a later stage chooses another one or calls a module:
selections do not look at it, and a module is handed the output only. -/
theorem runRead_withDisplay
    (h : (∃ mode, .display mode ∈ stages) ∨ ∃ name args, .call name args ∈ stages)
    (mode : Display) (r : Record) :
    runRead settings line stages { r with display := mode } = runRead settings line stages r := by
  induction stages generalizing r with
  | nil => simp at h
  | cons stage rest ih =>
    cases stage with
    | select fields =>
      have hrest : (∃ mode, .display mode ∈ rest) ∨ ∃ name args, .call name args ∈ rest := by
        simpa using h
      rw [runRead_select, runRead_select, Record.select_withDisplay, ih hrest]
    | display later => rw [runRead_display, runRead_display]
    | call name args =>
      rw [runRead_call, runRead_call, callStage_congr (show { r with display := mode }.output =
        r.output from rfl)]

/-- **A display step makes no difference** to what is done on a line. -/
theorem runRead_eq_of_step (h : DisplayStep stages stages') (r : Record) :
    runRead settings line stages r = runRead settings line stages' r := by
  cases h with
  | drop before mode after h =>
    refine runRead_append_congr (fun r => ?_) before r
    rw [runRead_display, runRead_withDisplay h]
  | exchange before mode fields after =>
    refine runRead_append_congr (fun r => ?_) before r
    rw [runRead_display, runRead_select, runRead_select, runRead_display,
      Record.select_withDisplay]

theorem runRead_eq_of_steps (h : Relation.EqvGen DisplayStep stages stages') (r : Record) :
    runRead settings line stages r = runRead settings line stages' r := by
  induction h with
  | rel stages stages' h => exact runRead_eq_of_step h r
  | refl stages => rfl
  | symm stages stages' _ ih => exact ih.symm
  | trans stages stages' stages'' _ _ ih ih' => exact ih.trans ih'

/-! ## The same stages on another line -/

/-- Only the report of an unknown stage tells on which line it is. -/
theorem alike_callStage (line line' name : String) (args : List String) (r : Record) :
    Alike (callStage settings line name args r) (callStage settings line' name args r) := by
  intro s
  rw [callStage, callStage, session_bind, session_bind]
  split
  · rw [refuseStage_eq, refuseStage_eq]
    rfl
  · rfl

theorem alike_runRead (line line' : String) (stages : List Stage) (r : Record) :
    Alike (runRead settings line stages r) (runRead settings line' stages r) := by
  induction stages generalizing r with
  | nil => exact alike_refl _
  | cons stage rest ih =>
    cases stage with
    | select fields =>
      rw [runRead_select, runRead_select]
      exact ih _
    | display mode =>
      rw [runRead_display, runRead_display]
      exact ih _
    | call name args =>
      rw [runRead_call, runRead_call]
      refine alike_bind (alike_callStage line line' name args r) fun answer => ?_
      cases answer with
      | none => exact alike_refl _
      | some next => exact ih next

/-- Pipelines with the same head do the same if display steps lead from the stages of one to those
of the other. -/
theorem alike_runPipeline {line' head head' : String} {rest rest' : List String}
    (hsegments : segments line = head :: rest) (hsegments' : segments line' = head' :: rest')
    (hhead : Text.trim head = Text.trim head')
    (hsteps : Relation.EqvGen DisplayStep (rest.filterMap Stage.parse?)
      (rest'.filterMap Stage.parse?)) :
    Alike (runPipeline settings line) (runPipeline settings line') := by
  have hparse : Head.parse head = Head.parse head' := by rw [Head.parse, Head.parse, hhead]
  rw [runPipeline, hsegments, runPipeline, hsegments']
  dsimp only
  rw [runHead, hparse, ← runHead]
  refine alike_bind (alike_refl _) fun answer => ?_
  cases answer with
  | none => exact alike_refl _
  | some r =>
    show Alike (runStages settings line rest r) (runStages settings line' rest' r)
    rw [runStages_eq, runStages_eq, ← runRead, ← runRead, runRead_eq_of_steps hsteps]
    exact alike_runRead line line' _ r

end Action

/-! ## Lines -/

variable {ρ : Type} {settings : Settings ρ}

/-- **Display directives can be dropped and moved** by display steps: two pipelines that differ in
such steps make the same calls, write the same output, come to the same result and leave the same
session. -/
theorem execute_displaySteps {s : Session ρ} {text text' line line' head head' : String}
    {rest rest' : List String} (hline : Command.ofLine s.files text = .pipeline line)
    (hline' : Command.ofLine s.files text' = .pipeline line')
    (hsegments : segments line = head :: rest) (hsegments' : segments line' = head' :: rest')
    (hhead : Text.trim head = Text.trim head')
    (hsteps : Relation.EqvGen DisplayStep (rest.filterMap Stage.parse?)
      (rest'.filterMap Stage.parse?)) (depth : Nat) :
    ∃ run run', Action.execute settings (depth + 1) text s = some run ∧
      Action.execute settings (depth + 1) text' s = some run' ∧ run.result = run'.result ∧
      run.trace.calls = run'.trace.calls ∧ run.trace.output = run'.trace.output ∧
      run.session = run'.session := by
  obtain ⟨run, hrun, -⟩ := Action.exists_runPipeline_callsSegments settings line s
  have hpipelines : Action.Alike (Action.runPipeline settings line)
      (Action.runPipeline settings line') :=
    Action.alike_runPipeline hsegments hsegments' hhead hsteps
  have halike := hpipelines s
  rw [hrun, Option.map_some, eq_comm, Option.map_eq_some_iff] at halike
  obtain ⟨run', hrun', hsame⟩ := halike
  obtain ⟨hsession, hdeeds, hresult⟩ := (Run.mk.injEq ..).mp hsame
  refine ⟨run, run', ?_, ?_, hresult.symm, ?_, ?_, hsession.symm⟩
  · rw [Action.execute_eq, hline]
    exact hrun
  · rw [Action.execute_eq, hline']
    exact hrun'
  · rw [← Trace.calls_deeds, ← hdeeds, Trace.calls_deeds]
  · rw [← Trace.output_deeds, ← hdeeds, Trace.output_deeds]

/-- One display directive is dropped because a module comes later, and another one goes behind a
selection. -/
theorem execute_displaySteps_info :
    Command.ofLine Sample.session.files "args 1 | tt | info | pp | select b" =
        .pipeline "args 1 | tt | info | pp | select b" ∧
      Command.ofLine Sample.session.files " args 1 | info | select b|pp" =
        .pipeline "args 1 | info | select b|pp" ∧
      Relation.EqvGen DisplayStep
        [.display .table, .call "info" [], .display .pretty, .select ["b"]]
        [.call "info" [], .select ["b"], .display .pretty] ∧
      ∃ run run',
        Action.execute Sample.settings 1 "args 1 | tt | info | pp | select b" Sample.session =
          some run ∧
        Action.execute Sample.settings 1 " args 1 | info | select b|pp" Sample.session =
          some run' ∧
        run.result = run'.result ∧ run.trace.calls = run'.trace.calls ∧
        run.trace.output = run'.trace.output ∧ run.session = run'.session ∧
        run'.trace.calls = [("args", ["1"]), ("info", ["1"])] ∧
        run'.trace.output = "\nb: 2\n\n" := by
  have hline : Command.ofLine Sample.session.files "args 1 | tt | info | pp | select b" =
      .pipeline "args 1 | tt | info | pp | select b" := by decide +kernel
  have hline' : Command.ofLine Sample.session.files " args 1 | info | select b|pp" =
      .pipeline "args 1 | info | select b|pp" := by decide +kernel
  have hsegments : segments "args 1 | tt | info | pp | select b" =
      "args 1 " :: [" tt ", " info ", " pp ", " select b"] := by decide +kernel
  have hsegments' : segments "args 1 | info | select b|pp" =
      "args 1 " :: [" info ", " select b", "pp"] := by decide +kernel
  have hread : [" tt ", " info ", " pp ", " select b"].filterMap Stage.parse? =
      [.display .table, .call "info" [], .display .pretty, .select ["b"]] := by decide +kernel
  have hread' : [" info ", " select b", "pp"].filterMap Stage.parse? =
      [.call "info" [], .select ["b"], .display .pretty] := by decide +kernel
  have hsteps : Relation.EqvGen DisplayStep
      [.display .table, .call "info" [], .display .pretty, .select ["b"]]
      [.call "info" [], .select ["b"], .display .pretty] :=
    .trans _ _ _ (.rel _ _ (.drop [] .table _ (.inr ⟨"info", [], by simp⟩)))
      (.rel _ _ (.exchange [.call "info" []] .pretty ["b"] []))
  have hseen : (Action.execute Sample.settings 1 " args 1 | info | select b|pp"
      Sample.session).map (fun run => (run.trace.calls, run.trace.output)) =
        some ([("args", ["1"]), ("info", ["1"])], "\nb: 2\n\n") := by decide +kernel
  obtain ⟨run, run', hrun, hrun', hresult, hcalls, houtput, hsession⟩ :=
    @execute_displaySteps _ Sample.settings Sample.session _ _ _ _ _ _ _ _ hline hline' hsegments
      hsegments' rfl (by rw [hread, hread']; exact hsteps) 0
  rw [hrun', Option.map_some, Option.some_inj] at hseen
  obtain ⟨hcalls', houtput'⟩ := Prod.mk.inj hseen
  exact ⟨hline, hline', hsteps, run, run', hrun, hrun', hresult, hcalls, houtput, hsession, hcalls',
    houtput'⟩

end JsonShell
