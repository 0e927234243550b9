import JsonShell.Proofs.Session.Law
import JsonShell.Proofs.Session.Sample

/-!
# The first failure is the last thing that happens

However loops, scripts and pipelines are nested, a run has at most one failure of its own.  Nothing
is called and nothing is printed after it, and what the run gives is this failure inside one layer
for each script line that was in progress when it happened (`execute_failsFast`).

The lines in progress are read off the trace, as a stack: `lineStarted` puts a line on it and
`lineEnded` takes it off.  A whole run leaves the stack as it was, but the part of a run before its
failure may leave lines on it.  So the law below is about two things at once: what follows the
failure is quiet, and what stands before it leaves just those lines on the stack that the failure
gets its layers from.
-/

set_option autoImplicit false

namespace JsonShell

variable {ρ : Type}

/-! ## Lines in progress -/

/-- A line of a script. -/
structure ScriptLine where
  path : Path
  line : Nat
  command : String
deriving DecidableEq, Repr

/-- The line is the one with its number, counted from 1 on, and without the blanks around it. -/
def ScriptLine.IsLineOf (l : ScriptLine) (text : String) : Prop :=
  1 ≤ l.line ∧ ((Text.lines text).map Text.trim)[l.line - 1]? = some l.command

/-- The line starts. -/
def ScriptLine.started (l : ScriptLine) : Event :=
  .lineStarted l.path l.line l.command

/-- The lines in progress after an event, the innermost first. -/
def Event.progress (lines : List ScriptLine) : Event → List ScriptLine
  | .lineStarted path line command => ⟨path, line, command⟩ :: lines
  | .lineEnded => lines.tail
  | _ => lines

/-- A failure as it is passed on by script lines, the innermost first. -/
def Failure.inside (cause : Failure) (lines : List ScriptLine) : Failure :=
  lines.foldl (fun failure l => .script l.path l.line l.command failure) cause

namespace Trace

/-- The lines in progress after a trace, the innermost first. -/
def inProgress (t : Trace) : List ScriptLine :=
  t.foldl Event.progress []

/-- The trace leaves these lines in progress, on top of those that were in progress before it. -/
def Leaves (t : Trace) (lines : List ScriptLine) : Prop :=
  ∀ outer, t.foldl Event.progress outer = lines ++ outer

theorem Leaves.inProgress_eq {t : Trace} {lines : List ScriptLine} (h : t.Leaves lines) :
    t.inProgress = lines := by
  rw [inProgress, h, List.append_nil]

theorem leaves_nil : Leaves [] [] := fun _ => rfl

theorem Leaves.append {t rest : Trace} {lines inner : List ScriptLine} (h : t.Leaves lines)
    (hrest : rest.Leaves inner) : Leaves (t ++ rest) (inner ++ lines) := by
  intro outer
  rw [List.foldl_append, h, hrest, List.append_assoc]

/-- Events that neither start nor end a line leave no line in progress. -/
theorem leaves_of_forall {t : Trace} (h : ∀ e ∈ t, ∀ lines, e.progress lines = lines) :
    t.Leaves [] := by
  induction t with
  | nil => exact leaves_nil
  | cons e rest ih =>
    intro outer
    rw [List.foldl_cons, h e List.mem_cons_self]
    exact ih (fun e' he' => h e' (List.mem_cons_of_mem e he')) outer

/-- A line that is started stays in progress below those started after it. -/
theorem Leaves.inside {t : Trace} {lines : List ScriptLine} (h : t.Leaves lines)
    (l : ScriptLine) :
    Leaves (.lineStarted l.path l.line l.command :: t) (lines ++ [l]) := by
  intro outer
  rw [List.foldl_cons, Event.progress, h, List.append_assoc, List.singleton_append]

/-- A line that has ended is no longer in progress. -/
theorem Leaves.closed {t : Trace} (h : t.Leaves []) (path : Path) (line : Nat) (command : String) :
    Leaves (.lineStarted path line command :: (t ++ [.lineEnded])) [] := by
  intro outer
  rw [List.foldl_cons, List.foldl_append, h]
  rfl

/-! ## Quiet traces and failing traces -/

/-- Nothing is called, nothing is printed and no failure starts. -/
def Quiet (t : Trace) : Prop :=
  ∀ e ∈ t, e.call? = none ∧ e.output = "" ∧ e.cause? = none

theorem quiet_nil : Quiet [] := by
  intro e he
  cases he

theorem Quiet.append {t rest : Trace} (h : t.Quiet) (hrest : rest.Quiet) : Quiet (t ++ rest) := by
  intro e he
  rcases List.mem_append.1 he with he | he
  · exact h e he
  · exact hrest e he

theorem Quiet.calls_eq_nil {t : Trace} (h : t.Quiet) : t.calls = [] :=
  List.filterMap_eq_nil_iff.2 fun e he => (h e he).1

theorem Quiet.causes_eq_nil {t : Trace} (h : t.Quiet) : t.causes = [] :=
  List.filterMap_eq_nil_iff.2 fun e he => (h e he).2.2

theorem Quiet.output_eq_empty {t : Trace} (h : t.Quiet) : t.output = "" := by
  induction t with
  | nil => rfl
  | cons e rest ih =>
    rw [output, List.map_cons, String.join_cons, (h e List.mem_cons_self).2.1]
    exact ih fun e' he' => h e' (List.mem_cons_of_mem e he')

/-- The trace fails once and is quiet afterwards; the failure is the cause inside the lines that
were in progress. -/
inductive FailsWith : Trace → Failure → Prop
  | mk {before after : Trace} {e : Event} {cause : Failure} {lines : List ScriptLine}
      (calm : before.causes = []) (leaves : before.Leaves lines) (start : e.cause? = some cause)
      (quiet : after.Quiet) : FailsWith (before ++ e :: after) (cause.inside lines)

/-- A failure that starts outside all lines, and ends the trace. -/
theorem failsWith_of_start {before : Trace} {e : Event} {cause : Failure}
    (calm : before.causes = []) (leaves : before.Leaves []) (start : e.cause? = some cause) :
    FailsWith (before ++ [e]) cause :=
  .mk calm leaves start quiet_nil

theorem FailsWith.prepend {t rest : Trace} {failure : Failure} (h : rest.FailsWith failure)
    (calm : t.causes = []) (leaves : t.Leaves []) : FailsWith (t ++ rest) failure := by
  obtain @⟨before, after, e, cause, lines, hcalm, hleaves, start, quiet⟩ := h
  rw [← List.append_assoc]
  have hcalm' : causes (t ++ before) = [] := by
    rw [causes_append]
    exact List.append_eq_nil_iff.2 ⟨calm, hcalm⟩
  have hleaves' : Leaves (t ++ before) lines := by
    rw [← List.append_nil lines]
    exact leaves.append hleaves
  exact .mk hcalm' hleaves' start quiet

theorem FailsWith.append {t rest : Trace} {failure : Failure} (h : t.FailsWith failure)
    (quiet : rest.Quiet) : FailsWith (t ++ rest) failure := by
  obtain ⟨hcalm, hleaves, start, hquiet⟩ := h
  rw [List.append_assoc, List.cons_append]
  exact .mk hcalm hleaves start (hquiet.append quiet)

/-- A failure inside a line gets a layer for it. -/
theorem FailsWith.inside {t : Trace} {failure : Failure} (h : t.FailsWith failure)
    (l : ScriptLine) :
    FailsWith (.lineStarted l.path l.line l.command :: t)
      (.script l.path l.line l.command failure) := by
  obtain @⟨before, after, e, cause, lines, hcalm, hleaves, start, quiet⟩ := h
  have hlayer : Failure.script l.path l.line l.command (cause.inside lines) =
      cause.inside (lines ++ [l]) := by
    rw [Failure.inside, Failure.inside, List.foldl_append]
    rfl
  rw [hlayer, ← List.cons_append]
  exact .mk hcalm (hleaves.inside l) start quiet

end Trace

/-! ## The law -/

namespace Law

open JsonShell.Action

/-- A run that succeeds has no failure; one that fails has a single one, and is quiet after it. -/
def failFast : Law ρ where
  Holds _ t failure _ := t.Leaves [] ∧
    match failure with
    | none => t.causes = []
    | some failure => t.FailsWith failure
  nil _ := ⟨Trace.leaves_nil, rfl⟩
  append := by
    intro s t u trace rest failure h hrest
    refine ⟨h.1.append hrest.1, ?_⟩
    cases failure with
    | none => exact (Trace.causes_append ..).trans (List.append_eq_nil_iff.2 ⟨h.2, hrest.2⟩)
    | some failure => exact hrest.2.prepend h.2 h.1

variable {settings : Settings ρ}

theorem quiet_of_forall_isReport {t : Trace} (h : ∀ e ∈ t, e.IsReport) : t.Quiet := by
  intro e he
  cases e <;> first | exact (h _ he).elim | exact ⟨rfl, rfl, rfl⟩

theorem leaves_of_forall_isReport {t : Trace} (h : ∀ e ∈ t, e.IsReport) : t.Leaves [] := by
  refine Trace.leaves_of_forall fun e he lines => ?_
  cases e <;> first | exact (h _ he).elim | rfl

/-- What a module writes starts no failure. -/
theorem causes_chatter (chatter : List String) : Trace.causes (chatter.map .chatter) = [] :=
  filterMap_chatter (fun _ => rfl) chatter

theorem leaves_chatter (chatter : List String) : Trace.Leaves (chatter.map .chatter) [] := by
  refine Trace.leaves_of_forall fun e he lines => ?_
  obtain ⟨text, _, rfl⟩ := List.mem_map.1 he
  rfl

theorem leaves_callTrace (name : String) (args : List String) (s : Session ρ) :
    (callTrace settings name args s).Leaves [] := by
  have hcalled : Trace.Leaves [.called name args (answer settings name args s)] [] := fun _ => rfl
  exact (leaves_chatter _).append hcalled

theorem failFast_call (name : String) (args : List String) :
    failFast.Governs (call settings name args) := by
  intro s run hrun
  rw [call_eq] at hrun
  cases hanswer : answer settings name args s with
  | ok record =>
    rw [hanswer] at hrun
    cases hrun
    refine ⟨leaves_callTrace name args s, ?_⟩
    rw [callTrace, hanswer]
    exact (Trace.causes_append ..).trans (List.append_eq_nil_iff.2 ⟨causes_chatter _, rfl⟩)
  | error failure =>
    rw [hanswer] at hrun
    cases hrun
    have hreports : ∀ e ∈ callReports settings (called settings name args s)
        (callText name args) failure, e.IsReport := fun e he => isReport_of_mem_callReports he
    refine ⟨(leaves_callTrace name args s).append (leaves_of_forall_isReport hreports), ?_⟩
    have hcall : (callTrace settings name args s).FailsWith failure := by
      rw [callTrace, hanswer]
      exact Trace.failsWith_of_start (causes_chatter _) (leaves_chatter _) rfl
    exact hcall.append (quiet_of_forall_isReport hreports)

theorem failFast_raise (cause : Failure) : failFast.Governs (raise cause : Action ρ Unit) :=
  governs_of_eq (fun _ => rfl) fun _ =>
    ⟨fun _ => rfl, Trace.failsWith_of_start rfl Trace.leaves_nil rfl⟩

theorem failFast_basics : failFast.Basics settings where
  offer text := governs_of_eq (fun _ => rfl) fun _ => ⟨fun _ => rfl, rfl⟩
  call := failFast_call
  refuse line name := by
    refine governs_of_eq (refuseStage_eq line name) fun s => ⟨fun _ => rfl, ?_⟩
    have hreport : Trace.Leaves [.reported (.unknownStage (.ofPlace s.place) line name)] [] :=
      fun _ => rfl
    exact Trace.failsWith_of_start rfl hreport rfl
  raise cause _ := failFast_raise cause

theorem failFast_runLoop (run : String → Action ρ Unit)
    (hrun : ∀ line, failFast.Governs (run line)) (l : Loop) : failFast.Governs (runLoop run l) := by
  have hset : ∀ value, failFast.Governs (setVariable l.var value : Action ρ Unit) :=
    fun value => governs_of_eq (fun _ => rfl) fun _ => ⟨Trace.leaves_nil, rfl⟩
  exact governs_runLoop (fun cause _ => failFast_raise cause) (fun _ => ⟨fun _ => rfl, rfl⟩) hset
    (fun h => h) hrun

/-- The layer that a line puts around its failure is that of the line which was in progress. -/
theorem failFast_performLine (run : String → Action ρ Unit)
    (hrun : ∀ line, failFast.Governs (run line)) (path : Path) (line : Nat) (command : String) :
    failFast.Governs (performLine settings run path line command) := by
  intro s r hr
  rw [performLine_eq] at hr
  obtain ⟨⟨t, trace, result⟩, hinner, rfl⟩ := Option.map_eq_some_iff.1 hr
  obtain ⟨hleaves, hcauses⟩ := hrun _ _ _ hinner
  cases result with
  | ok _ =>
    refine ⟨hleaves.closed path line command, ?_⟩
    have hcalm : trace.causes = [] := hcauses
    show Trace.causes (trace ++ [.lineEnded]) = []
    rw [Trace.causes_append, hcalm]
    rfl
  | error failure =>
    have hfails : trace.FailsWith failure := hcauses
    have hreports : ∀ e ∈ lineReports settings path line command failure, e.IsReport :=
      fun e he => isReport_of_mem_lineReports he
    constructor
    · have hclosed := (hleaves.closed path line command).append (leaves_of_forall_isReport hreports)
      rw [List.cons_append, List.append_assoc] at hclosed
      exact hclosed
    · have hended : Trace.Quiet [.lineEnded] := by
        intro e he
        rw [List.mem_singleton.1 he]
        exact ⟨rfl, rfl, rfl⟩
      exact (hfails.inside ⟨path, line, command⟩).append
        (hended.append (quiet_of_forall_isReport hreports))

theorem failFast_runScript (run : String → Action ρ Unit)
    (hrun : ∀ line, failFast.Governs (run line)) (path : Path) :
    failFast.Governs (runScript settings run path) :=
  failFast_basics.runScript (fun _ _ => ⟨fun _ => rfl, rfl⟩) (fun h => h)
    (failFast_performLine run hrun path)

theorem failFast_execute (depth : Nat) (line : String) :
    failFast.Governs (execute settings depth line) :=
  governs_execute failFast_basics (fun _ _ => ⟨fun _ => rfl, rfl⟩) failFast_runLoop
    failFast_runScript depth line

/-! ## Lines in progress are lines of scripts -/

/-- Every script line that starts in a run is a line of a text that was read from the script: from
one of the given texts, or from one read during the run. -/
def numbered (texts : List (Path × String)) : Law ρ where
  Holds _ t _ _ := ∀ l : ScriptLine, l.started ∈ t →
    ∃ text, ((l.path, text) ∈ texts ∨ .opened l.path text ∈ t) ∧ l.IsLineOf text
  nil _ _ h := nomatch h
  append := by
    intro s t u trace rest failure h hrest l hl
    rcases List.mem_append.1 hl with hl | hl
    · obtain ⟨text, hread, hline⟩ := h l hl
      exact ⟨text, hread.imp_right (List.mem_append_left rest), hline⟩
    · obtain ⟨text, hread, hline⟩ := hrest l hl
      exact ⟨text, hread.imp_right (List.mem_append_right trace), hline⟩

variable {texts : List (Path × String)}

/-- A trace in which no line starts. -/
theorem numbered_of_forall {s t : Session ρ} {trace : Trace} {failure : Option Failure}
    (h : ∀ l : ScriptLine, l.started ∉ trace) : (numbered texts).Holds s trace failure t :=
  fun l hl => absurd hl (h l)

theorem numbered_raise (cause : Failure) :
    (numbered texts).Governs (raise cause : Action ρ Unit) :=
  governs_of_eq (fun _ => rfl) fun _ => numbered_of_forall (by simp [ScriptLine.started])

theorem numbered_basics : (numbered texts).Basics settings where
  offer text := governs_of_eq (fun _ => rfl) fun _ =>
    numbered_of_forall (by simp [ScriptLine.started])
  call name args := by
    intro s run hrun
    refine numbered_of_forall fun l hl => ?_
    rcases mem_of_call hrun hl with ⟨text, h⟩ | ⟨answer, h⟩ | h
    · cases h
    · cases h
    · exact h
  refuse line name := governs_of_eq (refuseStage_eq line name) fun _ =>
    numbered_of_forall (by simp [ScriptLine.started])
  raise cause _ := numbered_raise cause

theorem numbered_runLoop (run : String → Action ρ Unit)
    (hrun : ∀ line, (numbered texts).Governs (run line)) (l : Loop) :
    (numbered texts).Governs (runLoop run l) := by
  have hlooped : ∀ s : Session ρ, (numbered texts).Holds s [.looped l.var] none s :=
    fun _ => numbered_of_forall (by simp [ScriptLine.started])
  have hset : ∀ value, (numbered texts).Governs (setVariable l.var value : Action ρ Unit) :=
    fun value => governs_of_eq (fun _ => rfl) fun _ => numbered_of_forall (by simp)
  exact governs_runLoop (fun cause _ => numbered_raise cause) hlooped hset (fun h => h) hrun

/-- What holds of lines that run by themselves holds of lines of a script. -/
theorem numbered_mono {s t : Session ρ} {trace : Trace} {failure : Option Failure}
    (h : (numbered []).Holds s trace failure t) : (numbered texts).Holds s trace failure t := by
  intro l hl
  obtain ⟨text, hread, hline⟩ := h l hl
  exact ⟨text, .inr (hread.resolve_left List.not_mem_nil), hline⟩

theorem isLineOf_of_mem_commands {path : Path} {text command : String} {line : Nat}
    (h : (line, command) ∈ Script.commands text) :
    ScriptLine.IsLineOf ⟨path, line, command⟩ text :=
  Script.mem_numberFrom.1 (List.mem_filter.1 h).1

theorem numbered_performLine (run : String → Action ρ Unit)
    (hrun : ∀ line, (numbered []).Governs (run line)) {path : Path} {text command : String}
    {line : Nat} (hline : ScriptLine.IsLineOf ⟨path, line, command⟩ text) :
    (numbered [(path, text)]).Governs (performLine settings run path line command) := by
  refine governs_performLine (fun h => h) ?_ ?_ fun l => (hrun l).mono numbered_mono
  · intro s l hl
    cases List.mem_singleton.1 hl
    exact ⟨text, .inl List.mem_cons_self, hline⟩
  · refine fun inner reports hreports => numbered_of_forall fun l hl => ?_
    rcases List.mem_cons.1 hl with h | h
    · cases h
    · exact hreports _ h

/-- Once a script has been read, its text is one of those read during the run. -/
theorem numbered_opened {path : Path} {text : String} {s t : Session ρ} {trace : Trace}
    {failure : Option Failure} (h : (numbered [(path, text)]).Holds s trace failure t) :
    (numbered []).Holds s (.opened path text :: trace) failure t := by
  intro l hl
  rcases List.mem_cons.1 hl with hl | hl
  · cases hl
  · obtain ⟨text', hread, hline⟩ := h l hl
    refine ⟨text', .inr ?_, hline⟩
    rcases hread with hread | hread
    · cases List.mem_singleton.1 hread
      exact List.mem_cons_self
    · exact List.mem_cons_of_mem _ hread

theorem numbered_runScript (run : String → Action ρ Unit)
    (hrun : ∀ line, (numbered []).Governs (run line)) (path : Path) :
    (numbered []).Governs (runScript settings run path) := by
  intro s r hr
  cases hread : s.files.readText path with
  | error fault =>
    rw [runScript_of_error hread] at hr
    cases hr
    exact numbered_of_forall (by simp [ScriptLine.started])
  | ok text =>
    rw [runScript_of_ok hread] at hr
    obtain ⟨inner, hinner, rfl⟩ := Option.map_eq_some_iff.1 hr
    have hlines : (numbered [(path, text)]).Governs
        (runScriptLines settings run path (Script.commands text)) :=
      governs_runScriptLines _ fun line command h =>
        numbered_basics.announce_bind _
          (numbered_performLine run hrun (isLineOf_of_mem_commands h))
    have hperform : (numbered [(path, text)]).Governs (performScript settings run path text) :=
      governs_performScript (fun h => h) hlines
    exact numbered_opened (numbered_basics.announce_bind _ hperform s inner hinner)

theorem numbered_execute (depth : Nat) (line : String) :
    (numbered []).Governs (execute settings depth line) :=
  governs_execute numbered_basics
    (fun _ _ => numbered_of_forall (by simp [ScriptLine.started])) numbered_runLoop
    numbered_runScript depth line

end Law

/-! ## The failure of a run -/

namespace Trace

/-- A line is in progress only if it has started. -/
theorem mem_foldl_progress {t : Trace} {l : ScriptLine} {lines : List ScriptLine}
    (h : l ∈ t.foldl Event.progress lines) : l ∈ lines ∨ l.started ∈ t := by
  induction t generalizing lines with
  | nil => exact .inl h
  | cons e rest ih =>
    rcases ih h with h | h
    · cases e with
      | lineStarted path line command =>
        rcases List.mem_cons.1 h with rfl | h
        · exact .inr List.mem_cons_self
        · exact .inl h
      | lineEnded => exact .inl (List.mem_of_mem_tail h)
      | _ => exact .inl h
    · exact .inr (List.mem_cons_of_mem e h)

/-- A trace is cut in only one way at a failure with no failure on either side. -/
theorem eq_of_cut_eq {before before' after after' : Trace} {e e' : Event} {cause : Failure}
    (h : before ++ e :: after = before' ++ e' :: after') (he : e.cause? = some cause)
    (hbefore : before'.causes = []) (hafter : after'.causes = []) :
    before = before' ∧ e = e' ∧ after = after' := by
  have hne : ∀ t : Trace, t.causes = [] → e ∉ t := by
    intro t ht hmem
    have := List.filterMap_eq_nil_iff.1 ht e hmem
    rw [he] at this
    cases this
  rcases List.append_eq_append_iff.1 h with ⟨m, hm, hrest⟩ | ⟨m, hm, hrest⟩
  · cases m with
    | nil =>
      obtain ⟨rfl, rfl⟩ := List.cons.inj hrest
      exact ⟨by rw [hm, List.append_nil], rfl, rfl⟩
    | cons x m =>
      obtain ⟨rfl, _⟩ := List.cons.inj hrest
      refine absurd ?_ (hne before' hbefore)
      rw [hm]
      exact List.mem_append_right _ List.mem_cons_self
  · cases m with
    | nil =>
      obtain ⟨rfl, rfl⟩ := List.cons.inj hrest
      exact ⟨by rw [hm, List.append_nil], rfl, rfl⟩
    | cons x m =>
      refine absurd ?_ (hne after' hafter)
      rw [(List.cons.inj hrest).2]
      exact List.mem_append_right _ List.mem_cons_self

end Trace

/-- The run has at most one failure of its own, which is the last thing that happens and decides the
result. -/
structure Run.FailsFast (run : Run ρ Unit) : Prop where
  /-- The run succeeds just if no failure starts in it. -/
  ok_iff : run.result = .ok () ↔ run.trace.causes = []
  /-- At most one call or other command fails. -/
  causes_le : run.trace.causes.length ≤ 1
  /-- Nothing is called or printed after a failure. -/
  quiet : ∀ (before : Trace) (e : Event) (after : Trace) (cause : Failure),
    run.trace = before ++ e :: after → e.cause? = some cause →
      after.calls = [] ∧ after.output = ""
  /-- The result is the failure inside the script lines that were in progress. -/
  result : ∀ (before : Trace) (e : Event) (after : Trace) (cause : Failure),
    run.trace = before ++ e :: after → e.cause? = some cause →
      run.result = .error (cause.inside before.inProgress)
  /-- Those are lines of scripts that were read, with their numbers there. -/
  lines : ∀ before after : Trace, run.trace = before ++ after → ∀ l ∈ before.inProgress,
    ∃ text, .opened l.path text ∈ run.trace ∧ l.IsLineOf text

/-- **A run stops at its first failure**, at whatever depth of loops, scripts and pipelines that
happens. -/
theorem execute_failsFast {settings : Settings ρ} {depth : Nat} {line : String} {s : Session ρ}
    {run : Run ρ Unit} (h : Action.execute settings depth line s = some run) : run.FailsFast := by
  have hlines : ∀ before after, run.trace = before ++ after → ∀ l ∈ before.inProgress,
      ∃ text, .opened l.path text ∈ run.trace ∧ l.IsLineOf text := by
    intro before after htrace l hl
    have hstarted : l.started ∈ before :=
      (Trace.mem_foldl_progress hl).resolve_left List.not_mem_nil
    obtain ⟨text, hread, hline⟩ := Law.numbered_execute depth line s run h l
      (htrace ▸ List.mem_append_left after hstarted)
    exact ⟨text, hread.resolve_left List.not_mem_nil, hline⟩
  have hlaw := (Law.failFast_execute depth line s run h).2
  rcases run with ⟨t, trace, failure | ⟨⟩⟩
  · obtain @⟨before, after, e, cause, lines, calm, leaves, start, quiet⟩ := hlaw
    have hcauses : Trace.causes (before ++ e :: after) = [cause] := by
      rw [Trace.causes_append, calm, List.nil_append, Trace.causes, List.filterMap_cons_some start]
      exact congrArg _ quiet.causes_eq_nil
    refine ⟨⟨nofun, fun hnil => ?_⟩, ?_, ?_, ?_, hlines⟩
    · exact absurd (hcauses.symm.trans hnil) (List.cons_ne_nil cause [])
    · exact Nat.le_of_eq (congrArg List.length hcauses)
    · intro before' e' after' cause' htrace he'
      obtain ⟨_, _, rfl⟩ := Trace.eq_of_cut_eq htrace.symm he' calm quiet.causes_eq_nil
      exact ⟨quiet.calls_eq_nil, quiet.output_eq_empty⟩
    · intro before' e' after' cause' htrace he'
      obtain ⟨rfl, rfl, _⟩ := Trace.eq_of_cut_eq htrace.symm he' calm quiet.causes_eq_nil
      cases start.symm.trans he'
      rw [leaves.inProgress_eq]
  · have hcauses : trace.causes = [] := hlaw
    have hno : ∀ (before : Trace) (e : Event) (after : Trace) (cause : Failure),
        trace = before ++ e :: after → e.cause? ≠ some cause := by
      intro before e after cause htrace he
      have hmem : e ∈ trace := htrace ▸ List.mem_append_right before List.mem_cons_self
      rw [List.filterMap_eq_nil_iff.1 hcauses e hmem] at he
      cases he
    exact ⟨⟨fun _ => hcauses, fun _ => rfl⟩, hcauses ▸ Nat.zero_le 1,
      fun before e after cause htrace he => absurd he (hno before e after cause htrace),
      fun before e after cause htrace he => absurd he (hno before e after cause htrace), hlines⟩

/-- A module fails in a loop in a script in a script: there are two layers around its failure. -/
theorem execute_failsFast_outer :
    ∃ run, Action.execute Sample.settings 5 "outer" Sample.session = some run ∧
      run.failure? = some
        (.script ⟨"outer"⟩ 2 "inner"
          (.script ⟨"inner"⟩ 4 "forloop 2 as $i do \x7b echo $i; boom $i \x7d"
            (.executionFailed "boom" ⟨"/m/boom.py"⟩ "no"))) ∧
      run.FailsFast := by
  have hfailure : (Action.execute Sample.settings 5 "outer" Sample.session).map Run.failure? =
      some (some (.script ⟨"outer"⟩ 2 "inner"
        (.script ⟨"inner"⟩ 4 "forloop 2 as $i do \x7b echo $i; boom $i \x7d"
          (.executionFailed "boom" ⟨"/m/boom.py"⟩ "no")))) := by decide +kernel
  obtain ⟨run, hrun, hfails⟩ := Option.map_eq_some_iff.1 hfailure
  exact ⟨run, hrun, hfails, execute_failsFast hrun⟩

end JsonShell
