import JsonShell.Proofs.Session.Place
import JsonShell.Proofs.Session.Progress
import JsonShell.Proofs.Session.Sample

/-!
# Diagnostics name the line being run

Two kinds of diagnostics are about the input: that no module has a name, and that a stage is neither
a directive nor a module.  They name the line that is being run, and what they go by is the place of
the session, which scripts change and put back as they run each other.

`serveAll_located` says that they are right: over any sequence of lines, scripts and calls that a
session is asked for, such a diagnostic names the innermost line in progress, as the trace has it,
or the input if there is none.  It does not matter how requests end: a script may be unreadable, a
line may fail, and the output may refuse any text.  The law behind it speaks of all surroundings at
once: a line may be run by itself or inside lines that are already in progress, as long as the place
of the session is that of the innermost one.
-/

set_option autoImplicit false

namespace JsonShell

variable {ρ : Type} {settings : Settings ρ}

/-- The diagnostic is about a name in the line of input: no module or stage has it. -/
def Diagnostic.IsAboutInput (d : Diagnostic) : Prop :=
  d.label = "err_module_not_found" ∨ d.label = "err_unknown_stage"

instance (d : Diagnostic) : Decidable d.IsAboutInput :=
  inferInstanceAs (Decidable (_ ∨ _))

/-- The place of the innermost of the lines in progress, or else the given one. -/
def placeIn (base : Option (Path × Nat)) : List ScriptLine → Option (Path × Nat)
  | [] => base
  | l :: _ => some (l.path, l.line)

/-- If the event reports something about the input, it names the place. -/
def Event.Names (place : Option (Path × Nat)) : Event → Prop
  | .reported d => d.IsAboutInput → d.location = .ofPlace place
  | _ => True

/-! ## Located traces -/

namespace Trace

/-- Everything about the input is reported for the innermost line in progress, if the place at the
start is that of the innermost line then. -/
def Located (place : Option (Path × Nat)) (t : Trace) : Prop :=
  ∀ outer base, placeIn base outer = place →
    ∀ mark ∈ t.marked outer, mark.2.Names (placeIn base mark.1)

variable {place : Option (Path × Nat)}

theorem located_nil : Located place [] :=
  fun _ _ _ _ h => nomatch h

theorem Located.append {t rest : Trace} (h : t.Located place) (hleaves : t.Leaves [])
    (hrest : rest.Located place) : Located place (t ++ rest) := by
  intro outer base hplace mark hmark
  rw [hleaves.marked_append, List.mem_append] at hmark
  exact hmark.elim (h outer base hplace mark) (hrest outer base hplace mark)

theorem located_of_isFlat {t : Trace} (hflat : ∀ e ∈ t, e.IsFlat)
    (h : ∀ e ∈ t, e.Names place) : t.Located place := by
  intro outer base hplace mark hmark
  rw [marked_of_isFlat hflat, List.mem_map] at hmark
  obtain ⟨e, he, rfl⟩ := hmark
  rw [hplace]
  exact h e he

/-- A line is a place of its own, whatever the place is where it starts. -/
theorem Located.line {t reports : Trace} (l : ScriptLine)
    (h : t.Located (some (l.path, l.line))) (hleaves : t.Leaves [])
    (hreports : reports.Located place) :
    Located place (l.started :: (t ++ .lineEnded :: reports)) := by
  intro outer base hplace mark hmark
  rw [hleaves.marked_line, List.mem_cons, List.mem_append, List.mem_cons] at hmark
  rcases hmark with rfl | hmark | rfl | hmark
  · trivial
  · exact h (l :: outer) base rfl mark hmark
  · trivial
  · exact hreports outer base hplace mark hmark

end Trace

namespace Law

open JsonShell.Action

/-! ## Lines are located -/

/-- The run is nested, keeps the place, and reports for the innermost line in progress. -/
def located : Law ρ where
  Holds s t _ u := t.Nested ∧ u.place = s.place ∧ t.Located s.place
  nil s := ⟨Trace.nested_nil, rfl, Trace.located_nil⟩
  append := by
    intro s t u trace rest failure h hrest
    refine ⟨h.1.append hrest.1, hrest.2.1.trans h.2.1, h.2.2.append h.1.leaves ?_⟩
    rw [← h.2.1]
    exact hrest.2.2

/-- Nothing happens but what starts and ends no lines. -/
theorem located_of_isFlat {s t : Session ρ} {trace : Trace} {failure : Option Failure}
    (hplace : t.place = s.place) (hflat : ∀ e ∈ trace, e.IsFlat)
    (h : ∀ e ∈ trace, e.Names s.place) : located.Holds s trace failure t :=
  ⟨Trace.nested_of_isFlat hflat, hplace, Trace.located_of_isFlat hflat h⟩

theorem not_isAboutInput_executionFailed {paths : List Path} {name : String} {path : Path}
    {reason : String} : ¬(Diagnostic.executionFailed paths name path reason).IsAboutInput := by
  show ¬("err_execution_failed" = _ ∨ "err_execution_failed" = _)
  decide

theorem not_isAboutInput_scriptFailed {path : Path} {line : Nat} {command message : String} :
    ¬(Diagnostic.scriptFailed path line command message).IsAboutInput := by
  show ¬("SCRIPT_ERROR" = _ ∨ "SCRIPT_ERROR" = _)
  decide

theorem names_of_mem_logTrace {entry : LogEntry} {place : Option (Path × Nat)} {e : Event}
    (he : e ∈ logTrace settings entry) : e.Names place := by
  rw [logTrace] at he
  split at he
  · rw [List.mem_singleton.1 he]
    trivial
  · cases he

theorem names_of_mem_callReports {s : Session ρ} {command : String} {failure : Failure} {e : Event}
    (he : e ∈ callReports settings s command failure) : e.Names s.place := by
  cases failure with
  | moduleNotFound name =>
    rw [List.mem_singleton.1 he]
    exact fun _ => rfl
  | executionFailed name path reason =>
    rcases List.mem_append.1 he with he | he
    · exact names_of_mem_logTrace he
    · rw [List.mem_singleton.1 he]
      exact fun habout => absurd habout not_isAboutInput_executionFailed
  | _ => cases he

theorem names_of_mem_callTrace {name : String} {args : List String} {s : Session ρ}
    {place : Option (Path × Nat)} {e : Event} (he : e ∈ callTrace settings name args s) :
    e.Names place := by
  rcases List.mem_append.1 he with he | he
  · obtain ⟨text, _, rfl⟩ := List.mem_map.1 he
    trivial
  · rw [List.mem_singleton.1 he]
    trivial

theorem located_call (name : String) (args : List String) :
    located.Governs (call settings name args) := by
  intro s run hrun
  obtain ⟨modules, files, hsession⟩ := session_of_call hrun
  refine located_of_isFlat (by rw [hsession]) (fun e he => isFlat_of_mem_call hrun he) ?_
  intro e he
  rw [call_eq] at hrun
  split at hrun
  · cases hrun
    exact names_of_mem_callTrace he
  · cases hrun
    rcases List.mem_append.1 he with he | he
    · exact names_of_mem_callTrace he
    · -- The report is made after the call, which has kept the place.
      have hnames : e.Names (called settings name args s).place := names_of_mem_callReports he
      exact hnames

theorem located_raise (cause : Failure) : located.Governs (raise cause : Action ρ Unit) :=
  governs_of_eq (fun _ => rfl) fun _ => located_of_isFlat rfl
    (by simp [Event.IsFlat, Event.progress]) (by simp [Event.Names])

theorem located_basics : located.Basics settings where
  offer text := governs_of_eq (fun _ => rfl) fun _ => located_of_isFlat rfl
    (by simp [Event.IsFlat, Event.progress]) (by simp [Event.Names])
  call := located_call
  refuse line name := governs_of_eq (refuseStage_eq line name) fun _ => located_of_isFlat rfl
    (by simp [Event.IsFlat, Event.progress])
    (by simp [Event.Names, Diagnostic.unknownStage])
  raise cause _ := located_raise cause

theorem located_runLoop (run : String → Action ρ Unit) (hrun : ∀ line, located.Governs (run line))
    (l : Loop) : located.Governs (runLoop run l) := by
  refine governs_runLoop (fun cause _ => located_raise cause) (fun _ => ?_) (fun value => ?_)
    (fun h => h) hrun
  · exact located_of_isFlat rfl (by simp [Event.IsFlat, Event.progress]) (by simp [Event.Names])
  · exact governs_of_eq (fun _ => rfl) fun _ => located_of_isFlat rfl (by simp) (by simp)

/-! ## Scripts are located -/

/-- Whatever the place at the start is, what is reported names the innermost line in progress. -/
def placing : Law ρ where
  Holds _ t _ _ := t.Nested ∧ ∀ place, t.Located place
  nil _ := ⟨Trace.nested_nil, fun _ => Trace.located_nil⟩
  append h hrest :=
    ⟨h.1.append hrest.1, fun place => (h.2 place).append h.1.leaves (hrest.2 place)⟩

/-- Nothing is reported while a line of a script is announced. -/
theorem placing_announce (text : String) : placing.Governs (announce settings text) := by
  have hflat : ∀ {s t : Session ρ} {trace : Trace} {failure : Option Failure},
      (∀ e ∈ trace, e.IsFlat) → (∀ place, ∀ e ∈ trace, e.Names place) →
        placing.Holds s trace failure t :=
    fun hflat h => ⟨Trace.nested_of_isFlat hflat,
      fun place => Trace.located_of_isFlat hflat (h place)⟩
  rw [announce]
  split
  · refine governs_write (governs_of_eq (fun _ => rfl) fun _ => hflat ?_ ?_) fun fault =>
      governs_of_eq (fun _ => rfl) fun _ => hflat ?_ ?_
    all_goals simp [Event.IsFlat, Event.progress, Event.Names]
  · exact governs_pure ()

/-- That a line of a script failed is no report about the input. -/
theorem names_of_mem_lineReports {path : Path} {line : Nat} {command : String} {failure : Failure}
    {place : Option (Path × Nat)} {e : Event}
    (he : e ∈ lineReports settings path line command failure) : e.Names place := by
  rcases List.mem_append.1 he with he | he
  · exact names_of_mem_logTrace he
  · rw [List.mem_singleton.1 he]
    exact fun habout => absurd habout not_isAboutInput_scriptFailed

theorem placing_performLine (run : String → Action ρ Unit)
    (hrun : ∀ line, located.Governs (run line)) (path : Path) (line : Nat) (command : String) :
    placing.Governs (performLine settings run path line command) := by
  intro s r hr
  refine ⟨nested_performLine run (fun line => (hrun line).mono And.left) path line command s r hr,
    fun place => ?_⟩
  rw [performLine_eq] at hr
  obtain ⟨inner, hinner, rfl⟩ := Option.map_eq_some_iff.1 hr
  obtain ⟨hnested, -, hlocated⟩ := hrun _ _ _ hinner
  have hline : ∀ reports : Trace, (∀ e ∈ reports, e.IsReport) → (∀ e ∈ reports, e.Names place) →
      Trace.Located place (.lineStarted path line command ::
        (inner.trace ++ .lineEnded :: reports)) := by
    intro reports hreports hnames
    have hflat : reports.Located place :=
      Trace.located_of_isFlat (fun e he => (hreports e he).isFlat) hnames
    exact Trace.Located.line ⟨path, line, command⟩ hlocated hnested.leaves hflat
  rw [Run.after, closeLine]
  split
  · exact hline [] (List.forall_mem_nil _) (List.forall_mem_nil _)
  · exact hline _ (fun e he => isReport_of_mem_lineReports he)
      fun e he => names_of_mem_lineReports he

/-- The commands of a script are run outside all places, and then the place is what it was. -/
theorem located_performScript (run : String → Action ρ Unit)
    (hrun : ∀ line, located.Governs (run line)) (path : Path) (text : String) :
    located.Governs (performScript settings run path text) := by
  intro s r hr
  rw [performScript_eq] at hr
  obtain ⟨inner, hinner, rfl⟩ := Option.map_eq_some_iff.1 hr
  have hlines : placing.Governs (runScriptLines settings run path (Script.commands text)) :=
    governs_runScriptLines _ fun line command _ =>
      governs_bind (placing_announce _) fun _ => placing_performLine run hrun path line command
  obtain ⟨hnested, hlocated⟩ := hlines _ inner hinner
  exact ⟨hnested, rfl, hlocated s.place⟩

theorem located_runScript (run : String → Action ρ Unit)
    (hrun : ∀ line, located.Governs (run line)) (path : Path) :
    located.Governs (runScript settings run path) := by
  refine located_basics.runScript_of_performScript (fun _ _ => ?_)
    (located_performScript run hrun path)
  exact located_of_isFlat rfl (by simp [Event.IsFlat, Event.progress]) (by simp [Event.Names])

theorem located_execute (depth : Nat) (line : String) :
    located.Governs (execute settings depth line) :=
  governs_execute located_basics
    (fun _ _ => located_of_isFlat rfl (by simp [Event.IsFlat, Event.progress])
      (by simp [Event.Names])) located_runLoop located_runScript depth line

end Law

/-! ## What a session is asked for -/

/-- What a session can be asked for from outside. -/
inductive Request where
  | line (line : String)
  | script (path : Path)
  | call (name : String) (args : List String)
deriving DecidableEq, Repr

namespace Action

/-- Does what the session is asked for. -/
def serve (settings : Settings ρ) (depth : Nat) : Request → Action ρ Unit
  | .line line => execute settings depth line
  | .script path => runScript settings (execute settings depth) path
  | .call name args => do
    let _ ← call settings name args
    pure ()

/-- Does one thing after the other, whatever comes of each. -/
def serveAll (settings : Settings ρ) (depth : Nat) : List Request → Action ρ Unit
  | [] => pure ()
  | request :: rest => do
    let _ ← attempt (serve settings depth request)
    serveAll settings depth rest

end Action

namespace Law

open JsonShell.Action

/-- A law of lines, scripts and calls that does not look at failures is one of all that a session
does. -/
theorem governs_serveAll {law : Law ρ} {depth : Nat}
    (hblind : ∀ {s t trace failure}, law.Holds s trace failure t → law.Holds s trace none t)
    (hline : ∀ line, law.Governs (execute settings depth line))
    (hscript : ∀ path, law.Governs (runScript settings (execute settings depth) path))
    (hcall : ∀ name args, law.Governs (call settings name args)) :
    ∀ requests, law.Governs (serveAll settings depth requests)
  | [] => governs_pure ()
  | request :: rest => by
    have hserve : law.Governs (serve settings depth request) := by
      cases request with
      | line line => exact hline line
      | script path => exact hscript path
      | call name args => exact governs_bind (hcall name args) fun _ => governs_pure ()
    exact governs_bind (governs_attempt hblind hserve) fun _ =>
      governs_serveAll hblind hline hscript hcall rest

theorem located_serveAll (depth : Nat) (requests : List Request) :
    located.Governs (serveAll settings depth requests) :=
  governs_serveAll (fun h => h) (located_execute depth)
    (located_runScript _ (located_execute depth)) located_call requests

theorem numbered_serveAll (depth : Nat) (requests : List Request) :
    (numbered []).Governs (serveAll settings depth requests) :=
  governs_serveAll (fun h => h) (numbered_execute depth)
    (numbered_runScript _ (numbered_execute depth)) numbered_basics.call requests

end Law

/-- What is reported about the input during the run names the line being run. -/
structure Run.IsLocated (run : Run ρ Unit) : Prop where
  /-- The innermost line in progress is named with its script and its number. -/
  file : ∀ (before : Trace) d after, run.trace = before ++ .reported d :: after → d.IsAboutInput →
    ∀ l rest, before.inProgress = l :: rest → d.location = .file l.path (some l.line)
  /-- Without a line in progress it is the input that is named. -/
  interactive : ∀ (before : Trace) d after, run.trace = before ++ .reported d :: after →
    d.IsAboutInput → before.inProgress = [] → d.location = .interactive
  /-- Lines in progress are lines of scripts that were read, with their numbers there. -/
  lines : ∀ before after : Trace, run.trace = before ++ after → ∀ l ∈ before.inProgress,
    ∃ text, .opened l.path text ∈ run.trace ∧ l.IsLineOf text

/-- **Diagnostics name the line being run**, over all that a session is asked for, whatever fails on
the way.  The session is outside all scripts again after each request. -/
theorem serveAll_located {depth : Nat} {requests : List Request} {s : Session ρ} {run : Run ρ Unit}
    (hplace : s.place = none) (h : Action.serveAll settings depth requests s = some run) :
    run.IsLocated ∧ run.session.place = none ∧
      ∀ request t inner, Action.serve settings depth request t = some inner →
        inner.session.place = t.place := by
  obtain ⟨-, hkept, hlocated⟩ := Law.located_serveAll depth requests s run h
  rw [hplace] at hkept hlocated
  have hnames : ∀ (before : Trace) d after, run.trace = before ++ .reported d :: after →
      d.IsAboutInput → d.location = .ofPlace (placeIn none before.inProgress) := by
    intro before d after htrace
    refine hlocated [] none rfl (before.inProgress, .reported d) ?_
    rw [htrace]
    exact Trace.mem_marked before (.reported d) after
  refine ⟨⟨?_, ?_, ?_⟩, hkept, ?_⟩
  · intro before d after htrace habout l rest hprogress
    rw [hnames before d after htrace habout, hprogress]
    rfl
  · intro before d after htrace habout hprogress
    rw [hnames before d after htrace habout, hprogress]
    rfl
  · intro before after htrace l hl
    have hstarted : l.started ∈ before :=
      (Trace.mem_foldl_progress hl).resolve_left List.not_mem_nil
    obtain ⟨text, hread, hline⟩ := Law.numbered_serveAll depth requests s run h l
      (htrace ▸ List.mem_append_left after hstarted)
    exact ⟨text, hread.resolve_left List.not_mem_nil, hline⟩
  · intro request t inner hserve
    have hone : Action.serveAll settings depth [request] t =
        some ⟨inner.session, inner.trace ++ [], .ok ()⟩ :=
      Action.bind_of_ok (by rw [Action.attempt, hserve]; rfl)
    exact (Law.located_serveAll depth [request] t _ hone).2.1

/-- In a loop a script has returned when a module is not found.  Then one script is no text and the
lines of another one cannot be announced, and the two reports after that are about the input. -/
theorem serveAll_located_detours :
    ∃ run, Sample.detours.place = none ∧
      Action.serveAll Sample.verbose 5
        [.script ⟨"main"⟩, .script ⟨"broken"⟩, .script ⟨"detour"⟩, .line "info | nope",
          .call "nope" []]
        Sample.detours = some run ∧
      run.trace.causes =
        [.moduleNotFound "nope", .io .notUtf8, .io (.other "No space left on device (os error 28)"),
          .unknownStage "nope", .moduleNotFound "nope"] ∧
      run.trace.diagnostics.map (fun d => (d.label, d.location)) =
        [("err_module_not_found", .file ⟨"main"⟩ (some 2)),
          ("SCRIPT_ERROR", .file ⟨"main"⟩ (some 2)), ("err_unknown_stage", .interactive),
          ("err_module_not_found", .interactive)] ∧
      run.IsLocated ∧ run.session.place = none ∧
        ∀ request t inner, Action.serve Sample.verbose 5 request t = some inner →
          inner.session.place = t.place := by
  have hplace : Sample.detours.place = none := rfl
  have hreports : (Action.serveAll Sample.verbose 5
      [.script ⟨"main"⟩, .script ⟨"broken"⟩, .script ⟨"detour"⟩, .line "info | nope",
        .call "nope" []]
      Sample.detours).map (fun run =>
        (run.trace.causes, run.trace.diagnostics.map fun d => (d.label, d.location))) =
          some ([.moduleNotFound "nope", .io .notUtf8,
            .io (.other "No space left on device (os error 28)"), .unknownStage "nope",
            .moduleNotFound "nope"],
          [("err_module_not_found", .file ⟨"main"⟩ (some 2)),
            ("SCRIPT_ERROR", .file ⟨"main"⟩ (some 2)), ("err_unknown_stage", .interactive),
            ("err_module_not_found", .interactive)]) := by decide +kernel
  obtain ⟨run, hrun, hreports⟩ := Option.map_eq_some_iff.1 hreports
  obtain ⟨hcauses, hlocations⟩ := Prod.mk.inj hreports
  exact ⟨run, hplace, hrun, hcauses, hlocations, serveAll_located hplace hrun⟩

end JsonShell
