import JsonShell.Proofs.Session.Deed
import JsonShell.Proofs.Session.Place
import JsonShell.Proofs.Session.Progress
import JsonShell.Proofs.Session.Sample

/-!
# Running a script is typing its lines

To *type* a line is to record it in the history and to run it, outside any script.  A script does
the same with its commands, one after the other, except that each of them is the place of the
session while it runs, and that the failure of one is logged, reported and wrapped
(`runScript_typed`).

Both runs go on side by side: before each line the sessions differ only in the place, which makes no
difference to what the line does (`Action.placeless_execute`), and a line keeps the place
(`Law.samePlace_execute`), so that typed lines are outside any script all the time.
-/

set_option autoImplicit false

namespace JsonShell

variable {ρ β : Type} {settings : Settings ρ}

/-! ## The commands of a text -/

namespace Script

/-- The commands of a text: its lines without the blanks around them, each with its number among all
lines of the text, in order.  Blank lines and comments are no commands, but they count. -/
structure IsListing (text : String) (commands : List (Nat × String)) : Prop where
  mem_iff : ∀ n command, (n, command) ∈ commands ↔
    (1 ≤ n ∧ ((Text.lines text).map Text.trim)[n - 1]? = some command) ∧
      command ≠ "" ∧ command.toList.head? ≠ some '#'
  ordered : commands.Pairwise fun first second => first.1 < second.1

theorem pairwise_numberFrom (first : Nat) (lines : List String) :
    (numberFrom first lines).Pairwise fun first second => first.1 < second.1 := by
  induction lines generalizing first with
  | nil => exact List.Pairwise.nil
  | cons line rest ih =>
    refine List.pairwise_cons.2 ⟨fun numbered hmem => ?_, ih (first + 1)⟩
    exact (mem_numberFrom.1 hmem).1

theorem isListing_commands (text : String) : IsListing text (commands text) where
  mem_iff n command := by
    rw [commands, List.mem_filter, mem_numberFrom]
    simp only [isCommand, Bool.and_eq_true, decide_eq_true_eq]
  ordered := (pairwise_numberFrom 1 _).filter _

end Script

/-! ## What is done in a line -/

/-- The location of a diagnostic plays no part in what is done. -/
theorem Event.isDeed_unplaced (e : Event) : e.unplaced.isDeed = e.isDeed := by
  cases e <;> rfl

theorem Event.unplaced_of_isDeed {e : Event} (h : e.isDeed) : e.unplaced = e := by
  cases e <;> first | rfl | cases h

namespace Trace

/-- The deeds of a line that is run are those of its command. -/
theorem deeds_line (t : Trace) (l : ScriptLine) {reports : Trace}
    (h : ∀ e ∈ reports, e.IsReport) :
    deeds (l.started :: (t ++ .lineEnded :: reports)) = t.deeds := by
  calc deeds (l.started :: (t ++ .lineEnded :: reports))
      = deeds (t ++ .lineEnded :: reports) := rfl
    _ = t.deeds ++ deeds reports := deeds_append t _
    _ = t.deeds := by rw [deeds_of_forall_isReport h, List.append_nil]

theorem deeds_map_unplaced (t : Trace) : deeds (t.map Event.unplaced) = t.deeds := by
  rw [deeds, List.filter_map, deeds]
  have hcomp : Event.isDeed ∘ Event.unplaced = Event.isDeed := funext Event.isDeed_unplaced
  rw [hcomp]
  calc (t.filter Event.isDeed).map Event.unplaced
      = (t.filter Event.isDeed).map id :=
        List.map_congr_left fun e he => Event.unplaced_of_isDeed (List.mem_filter.1 he).2
    _ = t.filter Event.isDeed := List.map_id _

end Trace

namespace Action

/-! ## Typing lines -/

/-- Types lines one after the other, until one fails. -/
def typeLines (run : String → Action ρ Unit) : List String → Action ρ Unit
  | [] => pure ()
  | line :: rest => do
    remember line
    run line
    typeLines run rest

/-- The session after a line is recorded. -/
def remembered (line : String) (s : Session ρ) : Session ρ :=
  { s with history := (s.history.add s.files line).1, files := (s.history.add s.files line).2 }

/-- A line of a script runs in the session of a line that was typed, but at a place of its own. -/
theorem atLine_placed_none (path : Path) (n : Nat) (command : String) (s : Session ρ) :
    (atLine path n command s).placed none = remembered command (s.placed none) := by
  simp only [atLine, remembered, Session.placed]

theorem remember_bind (line : String) (f : Unit → Action ρ β) (s : Session ρ) :
    (remember line >>= f) s = f () (remembered line s) := by
  rw [remember, change_bind, remembered]

theorem typeLines_cons (run : String → Action ρ Unit) (line : String) (rest : List String)
    (s : Session ρ) :
    typeLines run (line :: rest) s =
      (run line >>= fun _ => typeLines run rest) (remembered line s) :=
  remember_bind ..

theorem logged_placed (entry : LogEntry) (place : Option (Path × Nat)) (s : Session ρ) :
    (logged settings entry s).placed place = logged settings entry (s.placed place) := by
  rw [logged, logged]
  split
  · rfl
  · simp only [Session.placed]

/-- The run of a line of a script, beside the run of the same line when it is typed. -/
structure IsTypedLine (settings : Settings ρ) (path : Path) (n : Nat) (command : String)
    (script typed : Run ρ Unit) : Prop where
  nested : script.trace.Nested
  outerLines : script.trace.outerLines = [⟨path, n, command⟩]
  deeds : script.trace.deeds = typed.trace.deeds
  ok : typed.result = .ok () →
    script.result = .ok () ∧ script.session.placed none = typed.session
  error : ∀ cause, typed.result = .error cause →
    script.result = .error (.script path n command cause) ∧
      script.session.placed none =
        logged settings (.script path n command cause.message) typed.session

theorem exists_typed_line {depth : Nat} {path : Path} {n : Nat} {command : String}
    {s : Session ρ} {script : Run ρ Unit} (hverbose : settings.verbose = false)
    (h : runScriptLine settings (execute settings depth) path n command s = some script) :
    ∃ typed, execute settings depth command (remembered command (s.placed none)) = some typed ∧
      IsTypedLine settings path n command script typed := by
  rw [runScriptLine, announce_bind_of_eq_false hverbose, performLine_eq,
    Option.map_eq_some_iff] at h
  obtain ⟨inner, hinner, rfl⟩ := h
  have hplaceless : Placeless (execute settings depth command) := placeless_execute depth command
  have hsame := hplaceless (atLine path n command s) none
  rw [atLine_placed_none, hinner, Option.map_some, Option.map_eq_some_iff] at hsame
  obtain ⟨typed, htyped, hagree⟩ := hsame
  have hplace : typed.session.place = none := Law.samePlace_execute depth command _ typed htyped
  obtain ⟨⟨place, hsession⟩, htrace, hresult⟩ := Run.of_unplaced_eq hagree
  have hnone : inner.session.placed none = typed.session := by
    rw [hsession] at hplace ⊢
    cases hplace
    rfl
  obtain ⟨reports, hclose, hreports⟩ := closeLine_trace settings path n command inner
  have hscript : (Run.after [.lineStarted path n command]
      (closeLine settings path n command inner)).trace =
        ScriptLine.started ⟨path, n, command⟩ :: (inner.trace ++ .lineEnded :: reports) := by
    rw [Run.after, hclose]
    rfl
  have hinnerNested : inner.trace.Nested := Law.nested_execute depth command _ inner hinner
  have hflat : ∀ e ∈ reports, e.IsFlat := fun e he => (hreports e he).isFlat
  refine ⟨typed, htyped, ?_, ?_, ?_, ?_, ?_⟩
  · rw [hscript]
    exact hinnerNested.line ⟨path, n, command⟩ (Trace.nested_of_isFlat hflat)
  · rw [hscript, hinnerNested.outerLines_line, Trace.outerLines_of_isFlat hflat]
  · rw [hscript, Trace.deeds_line inner.trace ⟨path, n, command⟩ hreports,
      ← Trace.deeds_map_unplaced, ← htrace, Trace.deeds_map_unplaced]
  · intro hok
    rw [hresult] at hok
    rw [closeLine, hok]
    exact ⟨rfl, hnone⟩
  · intro cause herror
    rw [hresult] at herror
    rw [closeLine, herror]
    exact ⟨rfl, (logged_placed _ none inner.session).trans (by rw [hnone])⟩

/-! ## Typing the lines of a script -/

/-- The run of commands of a script, beside the run of typing those that were executed. -/
structure IsTypedLines (settings : Settings ρ) (run : String → Action ρ Unit) (path : Path)
    (commands : List (Nat × String)) (s : Session ρ) (script : Run ρ Unit)
    (executed : List (Nat × String)) (typed : Run ρ Unit) : Prop where
  isPrefix : executed <+: commands
  types : typeLines run (executed.map Prod.snd) (s.placed none) = some typed
  outerLines : script.trace.outerLines = executed.map fun line => ⟨path, line.1, line.2⟩
  deeds : script.trace.deeds = typed.trace.deeds
  ok : typed.result = .ok () →
    executed = commands ∧ script.result = .ok () ∧ script.session.placed none = typed.session
  error : ∀ cause, typed.result = .error cause → ∃ before n command,
    executed = before ++ [(n, command)] ∧
      (∃ earlier, typeLines run (before.map Prod.snd) (s.placed none) = some earlier ∧
        earlier.result = .ok ()) ∧
      script.result = .error (.script path n command cause) ∧
      script.session.placed none =
        logged settings (.script path n command cause.message) typed.session

theorem exists_typed_lines {depth : Nat} {path : Path} (hverbose : settings.verbose = false)
    (commands : List (Nat × String)) (s : Session ρ) {script : Run ρ Unit}
    (h : runScriptLines settings (execute settings depth) path commands s = some script) :
    ∃ executed typed, IsTypedLines settings (execute settings depth) path commands s script
      executed typed := by
  induction commands generalizing s script with
  | nil =>
    cases h
    exact ⟨[], ⟨s.placed none, [], .ok ()⟩, List.prefix_rfl, rfl, rfl, rfl,
      fun _ => ⟨rfl, rfl, rfl⟩, nofun⟩
  | cons first rest ih =>
    obtain ⟨n, command⟩ := first
    rcases bind_inv h with ⟨t, trace, failure, hline, rfl⟩ | ⟨t, trace, a, later, hline, hrest, rfl⟩
    · -- The first command fails, and it is the only one that is executed.
      obtain ⟨⟨u, typed, result⟩, hrun, hline⟩ := exists_typed_line hverbose hline
      cases result with
      | ok _ => cases (hline.ok rfl).1
      | error cause =>
        obtain ⟨hfailure, hsession⟩ := hline.error cause rfl
        refine ⟨[(n, command)], ⟨u, typed, .error cause⟩, List.prefix_append [(n, command)] rest,
          ?_, hline.outerLines, hline.deeds, nofun, ?_⟩
        · exact (typeLines_cons ..).trans (bind_of_error hrun)
        · intro cause' hcause
          cases hcause
          exact ⟨[], n, command, rfl, ⟨_, rfl, rfl⟩, hfailure, hsession⟩
    · obtain ⟨⟨u, typed, result⟩, hrun, hline⟩ := exists_typed_line hverbose hline
      cases result with
      | error cause => cases (hline.error cause rfl).1
      | ok _ =>
        obtain ⟨-, hsession⟩ := hline.ok rfl
        dsimp only at hsession
        subst hsession
        obtain ⟨executed, following, hfollowing⟩ := ih t hrest
        have htype : ∀ lines, typeLines (execute settings depth) (command :: lines)
            (s.placed none) =
              (typeLines (execute settings depth) lines (t.placed none)).map (Run.after typed) :=
          fun lines => (typeLines_cons ..).trans (bind_of_ok hrun)
        refine ⟨(n, command) :: executed, following.after typed,
          List.cons_prefix_cons.2 ⟨rfl, hfollowing.isPrefix⟩, ?_, ?_, ?_, ?_, ?_⟩
        · rw [List.map_cons, htype, hfollowing.types]
          rfl
        · rw [Run.after, hline.nested.leaves.outerLines_append, hfollowing.outerLines]
          exact congrArg (· ++ _) hline.outerLines
        · rw [Run.after, Run.after, Trace.deeds_append, Trace.deeds_append, hfollowing.deeds]
          exact congrArg (· ++ _) hline.deeds
        · intro hok
          obtain ⟨hall, hresult, hsession⟩ := hfollowing.ok hok
          exact ⟨congrArg _ hall, hresult, hsession⟩
        · intro cause hcause
          obtain ⟨before, m, last, hlast, ⟨earlier, hearlier, hok⟩, hresult, hsession⟩ :=
            hfollowing.error cause hcause
          refine ⟨(n, command) :: before, m, last, congrArg _ hlast, ⟨earlier.after typed, ?_, hok⟩,
            hresult, hsession⟩
          rw [List.map_cons, htype, hearlier]
          rfl

end Action

/-! ## Typing a script -/

/-- The run of a script is that of typing the first commands of its text, `executed`. -/
structure Run.IsTyping (run : Run ρ Unit) (settings : Settings ρ) (depth : Nat) (path : Path)
    (text : String) (s : Session ρ) (executed : List (Nat × String)) (typed : Run ρ Unit) :
    Prop where
  /-- The executed lines are the first commands of the text, and all of them if none fails. -/
  commands : ∃ commands, Script.IsListing text commands ∧ executed <+: commands ∧
    (run.result = .ok () → executed = commands)
  /-- The script itself starts these lines, in this order, and no others. -/
  lines : run.trace.outerLines = executed.map fun line => ⟨path, line.1, line.2⟩
  /-- The same lines are typed outside any script. -/
  types : Action.typeLines (Action.execute settings depth) (executed.map Prod.snd)
    (s.placed none) = some typed
  outside : typed.session.place = none
  calls : run.trace.calls = typed.trace.calls
  output : run.trace.output = typed.trace.output
  store : run.session.store = typed.session.store
  history : run.session.history = typed.session.history
  modules : run.session.modules = typed.session.modules
  ok_iff : run.result = .ok () ↔ typed.result = .ok ()
  /-- A failure is that of the last executed line, wrapped once, and no line before it failed. -/
  error : ∀ cause, typed.result = .error cause → ∃ before n command,
    executed = before ++ [(n, command)] ∧
      (∃ earlier, Action.typeLines (Action.execute settings depth) (before.map Prod.snd)
        (s.placed none) = some earlier ∧ earlier.result = .ok ()) ∧
      run.result = .error (.script path n command cause)

namespace Law

open JsonShell.Action

theorem samePlace_typeLines (depth : Nat) :
    ∀ lines, samePlace.Governs (typeLines (execute settings depth) lines)
  | [] => governs_pure ()
  | line :: rest =>
    governs_bind (governs_of_eq (fun _ => rfl) fun _ => rfl) fun _ =>
      governs_bind (samePlace_execute depth line) fun _ => samePlace_typeLines depth rest

end Law

/-- **Running a script is typing its lines**, up to the first one that fails. -/
theorem runScript_typed {depth : Nat} {path : Path} {text : String} {s : Session ρ}
    {run : Run ρ Unit} (hverbose : settings.verbose = false)
    (hread : s.files.readText path = .ok text)
    (h : Action.runScript settings (Action.execute settings depth) path s = some run) :
    ∃ executed typed, run.IsTyping settings depth path text s executed typed := by
  rw [Action.runScript_of_ok hread, Action.announce_bind_of_eq_false hverbose,
    Action.performScript_eq, Option.map_map, Option.map_eq_some_iff] at h
  obtain ⟨inner, hinner, rfl⟩ := h
  obtain ⟨executed, typed, hlines⟩ := Action.exists_typed_lines hverbose _ _ hinner
  have hdeeds : Trace.deeds (.opened path text :: inner.trace) = typed.trace.deeds := hlines.deeds
  -- After the script the sessions differ in the place, and in the files if a failure was logged.
  have hsession : ∃ files, inner.session.placed none = { typed.session with files := files } := by
    rcases hresult : typed.result with cause | ⟨⟩
    · obtain ⟨-, n, command, -, -, -, hlogged⟩ := hlines.error cause hresult
      rw [hlogged]
      exact Action.exists_logged_eq settings _ typed.session
    · exact ⟨typed.session.files, (hlines.ok hresult).2.2⟩
  obtain ⟨files, hsession⟩ := hsession
  have hok : inner.result = .ok () ↔ typed.result = .ok () := by
    refine ⟨fun hok => ?_, fun hok => (hlines.ok hok).2.1⟩
    rcases hresult : typed.result with cause | ⟨⟩
    · obtain ⟨-, n, command, -, -, hfails, -⟩ := hlines.error cause hresult
      rw [hfails] at hok
      cases hok
    · rfl
  refine ⟨executed, typed, ?_, ?_, hlines.types, Law.samePlace_typeLines depth _ _ _ hlines.types,
    ?_, ?_, ?_, ?_, ?_, hok, ?_⟩
  · exact ⟨_, Script.isListing_commands text, hlines.isPrefix, fun h => (hlines.ok (hok.1 h)).1⟩
  · exact hlines.outerLines
  · exact (Trace.calls_deeds _).symm.trans ((congrArg _ hdeeds).trans (Trace.calls_deeds _))
  · exact (Trace.output_deeds _).symm.trans ((congrArg _ hdeeds).trans (Trace.output_deeds _))
  · have hstore := congrArg Session.store hsession
    exact hstore
  · have hhistory := congrArg Session.history hsession
    exact hhistory
  · have hmodules := congrArg Session.modules hsession
    exact hmodules
  · intro cause hcause
    obtain ⟨before, n, command, hlast, hbefore, hfails, -⟩ := hlines.error cause hcause
    exact ⟨before, n, command, hlast, hbefore, hfails⟩

/-- The second line of a script runs another one, which fails in a loop. -/
theorem runScript_typed_outer :
    ∃ run, Sample.settings.verbose = false ∧
      Sample.session.files.readText ⟨"outer"⟩ = .ok "$y 2\ninner\necho never" ∧
      Action.runScript Sample.settings (Action.execute Sample.settings 5) ⟨"outer"⟩
        Sample.session = some run ∧
      run.trace.outerLines = [⟨⟨"outer"⟩, 1, "$y 2"⟩, ⟨⟨"outer"⟩, 2, "inner"⟩] ∧
      ∃ executed typed, run.IsTyping Sample.settings 5 ⟨"outer"⟩ "$y 2\ninner\necho never"
        Sample.session executed typed := by
  have hverbose : Sample.settings.verbose = false := rfl
  have hread : Sample.session.files.readText ⟨"outer"⟩ = .ok "$y 2\ninner\necho never" := rfl
  have hlines : (Action.runScript Sample.settings (Action.execute Sample.settings 5) ⟨"outer"⟩
      Sample.session).map (·.trace.outerLines) =
        some [⟨⟨"outer"⟩, 1, "$y 2"⟩, ⟨⟨"outer"⟩, 2, "inner"⟩] := by decide +kernel
  obtain ⟨run, hrun, hlines⟩ := Option.map_eq_some_iff.1 hlines
  exact ⟨run, hverbose, hread, hrun, hlines, runScript_typed hverbose hread hrun⟩

end JsonShell
