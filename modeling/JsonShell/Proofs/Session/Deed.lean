import JsonShell.Proofs.Session.Run

/-!
# What is done in a run

A trace tells what was done, and besides that where lines of scripts start and end and what was
reported of failures.  Two runs may well do the same and report it in other words: the deeds of a
trace (`Trace.deeds`) are what is left without the reports.  The calls of a run and its output are
told by its deeds alone.

Actions that do the same in every session are `Alike`.  Two of them can stand for each other in a
longer action (`Action.alike_bind`).
-/

set_option autoImplicit false

namespace JsonShell

variable {ρ α β : Type}

/-! ## Deeds -/

/-- The event is something done, and not a note that a script or a line of it starts or ends, or
that something failed. -/
def Event.isDeed : Event → Bool
  | .reported _ | .logged _ | .opened _ _ | .lineStarted _ _ _ | .lineEnded => false
  | _ => true

namespace Trace

/-- What is done in a run. -/
def deeds (t : Trace) : Trace :=
  t.filter Event.isDeed

theorem deeds_append (t rest : Trace) : deeds (t ++ rest) = t.deeds ++ rest.deeds :=
  List.filter_append ..

theorem deeds_of_forall_isReport {t : Trace} (h : ∀ e ∈ t, e.IsReport) : t.deeds = [] := by
  refine List.filter_eq_nil_iff.2 fun e he => ?_
  have hreport := h e he
  cases e <;> first | exact hreport.elim | exact Bool.false_ne_true

/-- The calls of a run are among its deeds. -/
theorem calls_deeds (t : Trace) : t.deeds.calls = t.calls := by
  rw [calls, deeds, List.filterMap_filter, calls]
  congr 1
  funext e
  cases e <;> rfl

/-- The output of a run is written by its deeds. -/
theorem output_deeds (t : Trace) : t.deeds.output = t.output := by
  induction t with
  | nil => rfl
  | cons e rest ih =>
    have hcons : ∀ (e : Event) (t : Trace), output (e :: t) = e.output ++ t.output :=
      fun e t => String.join_cons ..
    rw [deeds, hcons, List.filter_cons]
    split
    · rw [hcons]
      exact congrArg _ ih
    · rename_i hnot
      have hempty : e.output = "" := by
        cases e <;> first | rfl | exact absurd rfl hnot
      rw [hempty, String.empty_append]
      exact ih

end Trace

/-! ## Actions that do the same -/

/-- The run without what is not a deed of it. -/
def Run.unreported : Run ρ α → Run ρ α :=
  Run.seen id Trace.deeds

namespace Action

/-- The actions do the same in every session, and come to the same. -/
def Alike (x y : Action ρ α) : Prop :=
  ∀ s, (x s).map Run.unreported = (y s).map Run.unreported

theorem alike_refl (x : Action ρ α) : Alike x x :=
  fun _ => rfl

theorem alike_bind {x y : Action ρ α} {f g : α → Action ρ β} (hx : Alike x y)
    (hf : ∀ a, Alike (f a) (g a)) : Alike (x >>= f) (y >>= g) := by
  refine fun s => bind_seen Trace.deeds_append (hx s) fun a t t' hsame => ?_
  obtain rfl : t = t' := hsame
  exact hf a t

end Action

end JsonShell
