import JsonShell.Line.Pipe
import JsonShell.Pipeline.Head
import JsonShell.Pipeline.Stage
import JsonShell.Session.Call
import JsonShell.Variable.Reference

/-!
# Running pipelines

The head gives a record, each stage turns it into another one, and the last record is shown.  A
stage that is neither a directive nor a module is reported and fails before it is called.  A module
that gives no record ends the pipeline, and nothing is shown.
-/

set_option autoImplicit false

namespace JsonShell

/-- A stage is neither a directive nor a module. -/
def Diagnostic.unknownStage (location : Location) (line name : String) : Diagnostic :=
  { titled .error "err_unknown_stage" "unknown pipeline stage" with
    location := location
    context := some line
    message := some ("'" ++ name ++ "' is not an operator or module")
    hint := some "operators are select, pp and tt; run `modules` to list modules" }

namespace Action

variable {ρ : Type}

/-- Reports that a stage is neither a directive nor a module, and fails. -/
def refuseStage {α : Type} (line name : String) : Action ρ α := do
  let s ← session
  report (.unknownStage (.ofPlace s.place) line name)
  raise (.unknownStage name)

/-- Calls the module of a stage with the arguments of the stage and those that the record gives. -/
def callStage (settings : Settings ρ) (line name : String) (args : List String) (r : Record) :
    Action ρ (Option Record) := do
  let s ← session
  let name := s.store.expand name
  if (settings.runner.find? s.modules s.files name).isNone then refuseStage line name
  else call settings name (args.map s.store.expand ++ project r.output)

/-- Runs the stages of a line on a record. -/
def runStages (settings : Settings ρ) (line : String) : List String → Record → Action ρ Unit
  | [], r => showRecord settings r
  | segment :: rest, r =>
    match Stage.parse? segment with
    | none => runStages settings line rest r
    | some (.call name args) => do
      match ← callStage settings line name args r with
      | some r => runStages settings line rest r
      | none => pure ()
    | some stage => runStages settings line rest (stage.apply r)

/-- The record that the head of a pipeline gives. -/
def runHead (settings : Settings ρ) (segment : String) : Action ρ (Option Record) :=
  match Head.parse segment with
  | .empty => pure none
  | .literal r => pure (some r)
  | .command name args => do
    let s ← session
    call settings (s.store.expand name) (args.map s.store.expand)

/-- Runs a line that has a pipe. -/
def runPipeline (settings : Settings ρ) (line : String) : Action ρ Unit :=
  match segments line with
  | [] => pure ()
  | head :: stages => do
    match ← runHead settings head with
    | some r => runStages settings line stages r
    | none => pure ()

end Action

end JsonShell
