import JsonShell.Proofs.Session.FailFast

/-!
# Lines in progress at each moment of a run

The lines in progress change during a run, as scripts start and end lines.  Here every event of a
trace is marked with the lines that were in progress when it happened, and one law is shown of all
runs: what a line runs in turn lies on top of the lines that were in progress before it
(`Law.nested_execute`).  So a run never ends a line which it has not started.

The lines that a script starts itself, and not by running another script, are then the *outer lines*
of its trace.
-/

set_option autoImplicit false

namespace JsonShell

variable {ρ : Type}

/-- The line that starts with an event. -/
def Event.line? : Event → Option ScriptLine
  | .lineStarted path line command => some ⟨path, line, command⟩
  | _ => none

/-- The event neither starts nor ends a line. -/
def Event.IsFlat (e : Event) : Prop :=
  ∀ lines, e.progress lines = lines

theorem Event.IsReport.isFlat {e : Event} (h : e.IsReport) : e.IsFlat := by
  cases e <;> first | exact h.elim | exact fun _ => rfl

theorem Event.IsFlat.line?_eq_none {e : Event} (h : e.IsFlat) : e.line? = none := by
  cases e with
  | lineStarted path line command => exact absurd (h []) (List.cons_ne_nil _ _)
  | _ => rfl

namespace Trace

/-! ## Marks -/

/-- The events of a trace, each with the lines in progress when it happens, if the given ones are in
progress at the start. -/
def marked (lines : List ScriptLine) : Trace → List (List ScriptLine × Event)
  | [] => []
  | e :: rest => (lines, e) :: marked (e.progress lines) rest

theorem marked_append (lines : List ScriptLine) (t rest : Trace) :
    marked lines (t ++ rest) = marked lines t ++ marked (t.foldl Event.progress lines) rest := by
  induction t generalizing lines with
  | nil => rfl
  | cons e t ih => exact congrArg ((lines, e) :: ·) (ih _)

/-- After a trace that leaves no line in progress everything is as before it. -/
theorem Leaves.marked_append {t : Trace} (h : t.Leaves []) (lines : List ScriptLine)
    (rest : Trace) : marked lines (t ++ rest) = marked lines t ++ marked lines rest := by
  rw [Trace.marked_append, h, List.nil_append]

/-- An event is marked with the lines that the events before it leave in progress. -/
theorem mem_marked (before : Trace) (e : Event) (after : Trace) :
    (before.inProgress, e) ∈ marked [] (before ++ e :: after) := by
  rw [marked_append]
  exact List.mem_append_right _ List.mem_cons_self

/-- Without starts and ends of lines the marks are all the same. -/
theorem marked_of_isFlat {t : Trace} (h : ∀ e ∈ t, e.IsFlat) (lines : List ScriptLine) :
    marked lines t = t.map (lines, ·) := by
  induction t with
  | nil => rfl
  | cons e rest ih =>
    rw [marked, h e List.mem_cons_self, ih fun e' he' => h e' (List.mem_cons_of_mem e he')]
    rfl

/-! ## Nested traces -/

/-- The lines in progress before the trace stay in progress during it, below those that it starts,
and it ends all lines that it starts. -/
structure Nested (t : Trace) : Prop where
  leaves : t.Leaves []
  stays : ∀ outer, ∀ mark ∈ t.marked outer, outer <:+ mark.1

theorem nested_nil : Nested [] :=
  ⟨leaves_nil, fun _ _ h => nomatch h⟩

theorem Nested.append {t rest : Trace} (h : t.Nested) (hrest : rest.Nested) :
    Nested (t ++ rest) := by
  refine ⟨h.leaves.append hrest.leaves, fun outer mark hmark => ?_⟩
  rw [h.leaves.marked_append, List.mem_append] at hmark
  exact hmark.elim (h.stays outer mark) (hrest.stays outer mark)

theorem nested_of_isFlat {t : Trace} (h : ∀ e ∈ t, e.IsFlat) : t.Nested := by
  refine ⟨leaves_of_forall h, fun outer mark hmark => ?_⟩
  rw [marked_of_isFlat h, List.mem_map] at hmark
  obtain ⟨e, -, rfl⟩ := hmark
  exact List.suffix_rfl

/-- What happens while a line is run is marked with this line and with those around it. -/
theorem Leaves.marked_line {t : Trace} (h : t.Leaves []) (l : ScriptLine) (rest : Trace)
    (outer : List ScriptLine) :
    marked outer (l.started :: (t ++ .lineEnded :: rest)) =
      (outer, l.started) :: (t.marked (l :: outer) ++
        (l :: outer, .lineEnded) :: rest.marked outer) := by
  rw [marked]
  exact congrArg _ (h.marked_append (l :: outer) (.lineEnded :: rest))

/-- A line that is started and ended around a nested trace. -/
theorem Nested.line {t rest : Trace} (h : t.Nested) (l : ScriptLine) (hrest : rest.Nested) :
    Nested (l.started :: (t ++ .lineEnded :: rest)) := by
  constructor
  · have hclosed := (h.leaves.closed l.path l.line l.command).append hrest.leaves
    rw [List.cons_append, List.append_assoc] at hclosed
    exact hclosed
  · intro outer mark hmark
    rw [h.leaves.marked_line, List.mem_cons, List.mem_append, List.mem_cons] at hmark
    rcases hmark with rfl | hmark | rfl | hmark
    · exact List.suffix_rfl
    · exact (List.suffix_cons l outer).trans (h.stays _ mark hmark)
    · exact List.suffix_cons l outer
    · exact hrest.stays outer mark hmark

/-! ## Outer lines -/

/-- The line that a marked event starts while no line is in progress. -/
def outerLine? (mark : List ScriptLine × Event) : Option ScriptLine :=
  if mark.1.isEmpty then mark.2.line? else none

/-- The lines that start while no other one is in progress. -/
def outerLines (t : Trace) : List ScriptLine :=
  (t.marked []).filterMap outerLine?

theorem Leaves.outerLines_append {t : Trace} (h : t.Leaves []) (rest : Trace) :
    outerLines (t ++ rest) = t.outerLines ++ rest.outerLines := by
  rw [outerLines, h.marked_append, List.filterMap_append]
  rfl

theorem outerLines_of_isFlat {t : Trace} (h : ∀ e ∈ t, e.IsFlat) : t.outerLines = [] := by
  rw [outerLines, marked_of_isFlat h, List.filterMap_map]
  exact List.filterMap_eq_nil_iff.2 fun e he => (h e he).line?_eq_none

/-- Lines that start during another one are no outer lines. -/
theorem Nested.outerLines_line {t rest : Trace} (h : t.Nested) (l : ScriptLine) :
    outerLines (l.started :: (t ++ .lineEnded :: rest)) = l :: rest.outerLines := by
  have hinner : (t.marked [l]).filterMap outerLine? = [] := by
    refine List.filterMap_eq_nil_iff.2 fun mark hmark => ?_
    have hne : mark.1 ≠ [] := by
      intro hnil
      have hsuffix := h.stays [l] mark hmark
      rw [hnil, List.suffix_nil] at hsuffix
      cases hsuffix
    rw [outerLine?, if_neg (by simpa using hne)]
  have hstart : outerLine? ([], l.started) = some l := rfl
  have hend : outerLine? ([l], Event.lineEnded) = none := rfl
  rw [outerLines, h.leaves.marked_line, List.filterMap_cons_some hstart, List.filterMap_append,
    hinner, List.nil_append, List.filterMap_cons_none hend]
  rfl

end Trace

namespace Law

open JsonShell.Action

/-! ## All runs are nested -/

/-- The trace is nested. -/
def nested : Law ρ where
  Holds _ t _ _ := t.Nested
  nil _ := Trace.nested_nil
  append := Trace.Nested.append

variable {settings : Settings ρ}

/-- A call neither starts nor ends a line. -/
theorem isFlat_of_mem_call {name : String} {args : List String} {s : Session ρ}
    {run : Run ρ (Option Record)} (h : call settings name args s = some run) {e : Event}
    (he : e ∈ run.trace) : e.IsFlat := by
  rcases mem_of_call h he with ⟨text, rfl⟩ | ⟨answer, rfl⟩ | hreport
  · exact fun _ => rfl
  · exact fun _ => rfl
  · exact hreport.isFlat

theorem nested_raise (cause : Failure) : nested.Governs (raise cause : Action ρ Unit) :=
  governs_of_eq (fun _ => rfl) fun _ =>
    Trace.nested_of_isFlat (by simp [Event.IsFlat, Event.progress])

theorem nested_basics : nested.Basics settings where
  offer text := governs_of_eq (fun _ => rfl) fun _ =>
    Trace.nested_of_isFlat (by simp [Event.IsFlat, Event.progress])
  call _ _ := fun _ _ hrun => Trace.nested_of_isFlat fun _ he => isFlat_of_mem_call hrun he
  refuse line name := governs_of_eq (refuseStage_eq line name) fun _ =>
    Trace.nested_of_isFlat (by simp [Event.IsFlat, Event.progress])
  raise cause _ := nested_raise cause

theorem nested_runLoop (run : String → Action ρ Unit) (hrun : ∀ line, nested.Governs (run line))
    (l : Loop) : nested.Governs (runLoop run l) := by
  have hlooped : Trace.Nested [.looped l.var] :=
    Trace.nested_of_isFlat (by simp [Event.IsFlat, Event.progress])
  have hset : ∀ value, nested.Governs (setVariable l.var value : Action ρ Unit) :=
    fun value => governs_of_eq (fun _ => rfl) fun _ => Trace.nested_nil
  exact governs_runLoop (fun cause _ => nested_raise cause) (fun _ => hlooped) hset (fun h => h)
    hrun

theorem nested_performLine (run : String → Action ρ Unit)
    (hrun : ∀ line, nested.Governs (run line)) (path : Path) (line : Nat) (command : String) :
    nested.Governs (performLine settings run path line command) := by
  intro s r hr
  rw [performLine_eq] at hr
  obtain ⟨inner, hinner, rfl⟩ := Option.map_eq_some_iff.1 hr
  obtain ⟨reports, htrace, hreports⟩ := closeLine_trace settings path line command inner
  have hbody : inner.trace.Nested := hrun _ _ _ hinner
  have hflat : Trace.Nested reports :=
    Trace.nested_of_isFlat fun e he => (hreports e he).isFlat
  rw [Run.after, htrace]
  exact hbody.line ⟨path, line, command⟩ hflat

theorem nested_runScript (run : String → Action ρ Unit) (hrun : ∀ line, nested.Governs (run line))
    (path : Path) : nested.Governs (runScript settings run path) := by
  have hopened : ∀ text, Trace.Nested [.opened path text] :=
    fun text => Trace.nested_of_isFlat (by simp [Event.IsFlat, Event.progress])
  exact nested_basics.runScript (fun _ text => hopened text) (fun h => h)
    (nested_performLine run hrun path)

theorem nested_execute (depth : Nat) (line : String) :
    nested.Governs (execute settings depth line) :=
  governs_execute nested_basics
    (fun _ _ => Trace.nested_of_isFlat (by simp [Event.IsFlat, Event.progress])) nested_runLoop
    nested_runScript depth line

end Law

end JsonShell
