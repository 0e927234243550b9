import JsonShell.Proofs.Pipeline.Evaluation
import JsonShell.Proofs.Session.Law
import JsonShell.Proofs.Session.Sample

/-!
# Values do not change what a line is

A line is cut into segments and words before any variable in it is expanded.  So what the line does
is fixed by its text: whether it binds a variable, which built-in command it runs, how many modules
it may call, and how many arguments of its own each call has.  The values only fill in the words.
`Command.Unfolds` says this for each kind of command, and `execute_unfolds` that every line which
runs no further lines does so, under whatever variables.

For a pipeline this rests on its plan, whose legs are the module segments of the line
(`Plan.words_legs`).
-/

set_option autoImplicit false

namespace JsonShell

variable {ρ : Type} {settings : Settings ρ}

/-! ## Module segments -/

/-- The words of a head that calls a module. -/
def Head.words? : Head → Option (List String)
  | .command name args => some (name :: args)
  | _ => none

/-- The record of a head that is a literal. -/
def Head.record? : Head → Option Record
  | .literal r => some r
  | _ => none

/-- The words of a stage that calls a module. -/
def Stage.words? : Stage → Option (List String)
  | .call name args => some (name :: args)
  | _ => none

/-- The words of a leg. -/
def Leg.words (leg : Leg) : List String :=
  leg.name :: leg.args

namespace Pipe

/-- The segment is a stage that calls a module. -/
def isCall (segment : String) : Bool :=
  ((Stage.parse? segment).bind Stage.words?).isSome

/-- The segments of a line that call modules: the head, unless that is no command, and the stages
that are no directives. -/
def moduleSegments (line : String) : List String :=
  match segments line with
  | [] => []
  | head :: stages =>
    if (Head.parse head).words?.isSome then head :: stages.filter isCall else stages.filter isCall

/-- The record of a line that starts with a literal. -/
def literal? (line : String) : Option Record :=
  (segments line).head?.bind fun head => (Head.parse head).record?

end Pipe

/-- The words of a head are those of its segment. -/
theorem Head.words?_parse {segment : String} {words : List String}
    (h : (Head.parse segment).words? = some words) : tokenize (Text.trim segment) = words := by
  rw [parse] at h
  split at h
  · cases h
  · split at h
    · cases h
    · dsimp only at h
      split at h
      · cases h
      · split at h
        · cases h
        · cases hwords : tokenize (Text.trim segment) with
          | nil =>
            rw [hwords] at h
            cases h
          | cons name args =>
            rw [hwords] at h
            exact Option.some.inj h

/-- The words of a stage are those of its segment. -/
theorem Stage.words?_parse? {segment : String} {words : List String}
    (h : (Stage.parse? segment).bind Stage.words? = some words) :
    tokenize (Text.trim segment) = words := by
  rw [parse?] at h
  cases hwords : tokenize (Text.trim segment) with
  | nil =>
    rw [hwords] at h
    cases h
  | cons op args =>
    rw [hwords, ofWords?] at h
    split at h
    · cases h
    · split at h
      · cases h
      · split at h
        · cases h
        · exact Option.some.inj h

namespace Plan

/-- The words of legs are those of the stages that call modules. -/
theorem words_legsOf (stages : List Stage) :
    (legsOf stages).1.map Leg.words = stages.filterMap Stage.words? := by
  have hfilter : ∀ stage : Stage,
      (if stage.fields?.isNone && stage.mode?.isNone then stage.words? else none) =
        stage.words? := by
    rintro (_ | _ | _) <;> rfl
  calc
    _ = ((legsOf stages).1.map fun leg => Stage.call leg.name leg.args).filterMap
        Stage.words? := by
      rw [List.filterMap_map, ← List.filterMap_eq_map]
      rfl
    _ = _ := by
      rw [map_legsOf, List.filterMap_filter]
      exact congrArg (List.filterMap · stages) (funext hfilter)

theorem tokenize_filter_isCall (stages : List String) :
    ((stages.filter Pipe.isCall).map fun s => tokenize (Text.trim s)) =
      (stages.filterMap Stage.parse?).filterMap Stage.words? := by
  rw [List.filterMap_filterMap]
  induction stages with
  | nil => rfl
  | cons segment rest ih =>
    cases hwords : (Stage.parse? segment).bind Stage.words? with
    | none =>
      have hcall : Pipe.isCall segment = false := by rw [Pipe.isCall, hwords]; rfl
      simp only [List.filterMap_cons, hwords, ← ih, List.filter_cons, hcall]
      rfl
    | some words =>
      have hcall : Pipe.isCall segment = true := by rw [Pipe.isCall, hwords]; rfl
      simp only [List.filterMap_cons, hwords, ← ih, List.filter_cons, hcall, if_true,
        List.map_cons, Stage.words?_parse? hwords]

/-- **The legs of a plan are the module segments of the line**, word for word. -/
theorem words_legs {line head : String} {stages : List String} {plan : Plan}
    (hsegments : segments line = head :: stages) (hplan : ofSegments? head stages = some plan) :
    plan.legs.map Leg.words =
        ((Pipe.moduleSegments line).map fun s => tokenize (Text.trim s)) ∧
      plan.literal? = Pipe.literal? line := by
  have hmodules : Pipe.moduleSegments line = if (Head.parse head).words?.isSome then
      head :: stages.filter Pipe.isCall else stages.filter Pipe.isCall := by
    rw [Pipe.moduleSegments, hsegments]
  rw [hmodules, Pipe.literal?, hsegments, List.head?_cons, Option.bind_some]
  rw [ofSegments?] at hplan
  have hrest := (words_legsOf (stages.filterMap Stage.parse?)).trans
    (tokenize_filter_isCall stages).symm
  cases hhead : Head.parse head with
  | empty =>
    rw [hhead] at hplan
    cases hplan
  | literal r =>
    rw [hhead, Option.some_inj] at hplan
    rw [← hplan]
    exact ⟨hrest, rfl⟩
  | command name args =>
    rw [hhead, Option.some_inj] at hplan
    have hwords : tokenize (Text.trim head) = name :: args :=
      Head.words?_parse (by rw [hhead]; rfl)
    rw [← hplan]
    refine ⟨?_, rfl⟩
    show Leg.words _ :: _ = tokenize (Text.trim head) :: _
    rw [hwords, ← hrest]
    rfl

end Plan

/-! ## What lines come to -/

open JsonShell.Action

/-- The calls are made for the module segments of a line, in order and from the first one on.  Each
word of a segment is expanded by itself, into the name or into one argument; all further arguments
come from the output at hand. -/
def CallsSegments (s : Session ρ) (line : String) (calls : List AnsweredCall) : Prop :=
  ∀ before call after, calls = before ++ call :: after →
    ∃ segment word words directives, (Pipe.moduleSegments line)[before.length]? = some segment ∧
      tokenize (Text.trim segment) = word :: words ∧
      call.name = s.store.expand word ∧
      call.args = words.map s.store.expand ++
        project ((recordAfter (Pipe.literal? line) before).bind fun r =>
          (r.selected directives).output)

theorem Plan.Evaluates.callsSegments {line head : String} {stages : List String} {plan : Plan}
    {s : Session ρ} {o : Outcome} (hsegments : segments line = head :: stages)
    (hplan : Plan.ofSegments? head stages = some plan) (h : plan.Evaluates settings s o) :
    CallsSegments s line o.calls := by
  intro before call after hcalls
  obtain ⟨leg, hleg, hcall⟩ := h.call before call after hcalls
  obtain ⟨hwords, hliteral⟩ := words_legs hsegments hplan
  have hword := congrArg (·[before.length]?) hwords
  simp only [List.getElem?_map, hleg, Option.map_some] at hword
  obtain ⟨segment, hsegment, htokens⟩ := Option.map_eq_some_iff.1 hword.symm
  exact ⟨segment, leg.name, leg.args, leg.directives, hsegment, htokens, hcall.name,
    hliteral ▸ hcall.args⟩

/-- What a run of a command comes to.  Scripts and loops, which run further lines, are left out. -/
def Command.Unfolds (settings : Settings ρ) (line : String) (s : Session ρ) (run : Run ρ Unit) :
    Command → Prop
  | .nothing => run = ⟨s, [], .ok ()⟩
  | .assignment a => run = assignRun a s
  | .pipeline text =>
    text = Text.trim line ∧ run.trace.bound = [] ∧ run.session.store = s.store ∧
      CallsSegments s text run.trace.answered
  | .builtin b args =>
    (∃ name, tokenize (Text.trim line) = name :: args ∧ Builtin.ofName? name = some b) ∧
      run =
        match b.run (viewOf settings s) (args.map s.store.expand) with
        | .ok text => writeRun (fun fault => .builtin fault.message) text s
        | .error reason => ⟨s, [.raised (.builtin reason)], .error (.builtin reason)⟩
  | .call name args =>
    tokenize (Text.trim line) = name :: args ∧ Builtin.ofName? name = none ∧
      run.trace.bound = [] ∧ run.session.store = s.store ∧
      run.trace.calls = [(s.store.expand name, args.map s.store.expand)]
  | .script _ | .loop _ => False

namespace Law

/-- No variable is bound, and the store is what it was. -/
def bindsNothing : Law ρ where
  Holds s trace _ t := trace.bound = [] ∧ t.store = s.store
  nil _ := ⟨rfl, rfl⟩
  append h hrest := ⟨by rw [Trace.bound_append, h.1, hrest.1]; rfl, hrest.2.trans h.2⟩

theorem bindsNothing_basics : bindsNothing.Basics settings where
  offer _ := governs_of_eq (fun _ => rfl) fun _ => ⟨rfl, rfl⟩
  call name args := by
    intro s run hrun
    obtain ⟨modules, files, hsession⟩ := session_of_call hrun
    refine ⟨List.filterMap_eq_nil_iff.2 fun e he => ?_, by rw [hsession]⟩
    rcases mem_of_call hrun he with ⟨text, rfl⟩ | ⟨answer, rfl⟩ | hreport
    · rfl
    · rfl
    · cases e with
      | reported d => rfl
      | logged entry => rfl
      | _ => exact hreport.elim
  refuse line name := governs_of_eq (refuseStage_eq line name) fun _ => ⟨rfl, rfl⟩
  raise cause _ := governs_of_eq (fun _ => rfl) fun _ => ⟨rfl, rfl⟩

end Law

namespace Action

/-- A plain call is a single call, whatever comes of it. -/
theorem exists_runCall (settings : Settings ρ) (name : String) (args : List String)
    (s : Session ρ) :
    ∃ run, runCall settings name args s = some run ∧
      run.trace.calls = [(s.store.expand name, args.map s.store.expand)] := by
  rw [runCall, session_bind]
  generalize s.store.expand name = name
  generalize args.map s.store.expand = args
  -- What follows the call in the trace holds no further one.
  have hmore : ∀ more : Trace, more.calls = [] →
      Trace.calls (callTrace settings name args s ++ more) = [(name, args)] := by
    intro more hnone
    rw [Trace.calls_append, calls_callTrace, hnone, List.append_nil]
  have hcall := call_eq settings name args s
  cases hanswer : answer settings name args s with
  | error failure =>
    rw [hanswer] at hcall
    exact ⟨_, bind_of_error hcall, hmore _
      (filterMap_reports (fun e he => isReport_of_mem_callReports he) (fun _ => rfl) fun _ => rfl)⟩
  | ok record =>
    rw [hanswer] at hcall
    rw [bind_of_ok hcall]
    cases record with
    | none => exact ⟨_, rfl, hmore [] rfl⟩
    | some r =>
      exact ⟨_, congrArg (Option.map _) (showRecord_eq settings r _), hmore _ (calls_writeRun ..)⟩

theorem exists_runPipeline_callsSegments (settings : Settings ρ) (line : String)
    (s : Session ρ) :
    ∃ run, runPipeline settings line s = some run ∧ CallsSegments s line run.trace.answered := by
  obtain ⟨head, stages, hsegments⟩ : ∃ head stages, segments line = head :: stages := by
    refine List.exists_cons_of_ne_nil fun hnil => ?_
    exact Pipe.segmentChars_ne_nil _ (List.map_eq_nil_iff.1 hnil)
  cases hplan : Plan.ofSegments? head stages with
  | none =>
    have hhead := (Plan.ofSegments?_eq_none_iff head stages).1 hplan
    refine ⟨_, runPipeline_eq_of_parse_eq_empty hsegments hhead s, fun before call after heq => ?_⟩
    exact absurd heq (by simp [Trace.answered])
  | some plan =>
    obtain ⟨run, hrun, hevaluates⟩ :
        ∃ run, runPipeline settings line s = some run ∧ plan.Evaluates settings s run.outcome :=
      exists_runPipeline hsegments hplan s
    exact ⟨run, hrun, hevaluates.callsSegments hsegments hplan⟩

end Action

/-! ## All lines that run no further lines -/

/-- What a line can be read as. -/
theorem Command.ofLine_cases (files : FileTree) (line : String) :
    ofLine files line = .nothing ∨ (∃ path, ofLine files line = .script path) ∨
      (∃ a, ofLine files line = .assignment a) ∨ (∃ l, ofLine files line = .loop l) ∨
      ofLine files line = .pipeline (Text.trim line) ∨
      ofLine files line = ofWords (tokenize (Text.trim line)) := by
  rw [ofLine]
  split
  · exact .inl rfl
  · split
    · exact .inr (.inl ⟨_, rfl⟩)
    · split
      · exact .inr (.inr (.inl ⟨_, rfl⟩))
      · split
        · exact .inr (.inr (.inr (.inl ⟨_, rfl⟩)))
        · split
          · exact .inr (.inr (.inr (.inr (.inl rfl))))
          · exact .inr (.inr (.inr (.inr (.inr rfl))))

theorem Action.exists_runWords (run : String → Action ρ Unit) (line : String) (s : Session ρ) :
    ∃ r, runCommand settings run (Command.ofWords (tokenize (Text.trim line))) s = some r ∧
      (Command.ofWords (tokenize (Text.trim line))).Unfolds settings line s r := by
  cases hwords : tokenize (Text.trim line) with
  | nil => exact ⟨_, rfl, rfl⟩
  | cons name args =>
    rw [Command.ofWords]
    cases hbuiltin : Builtin.ofName? name with
    | some b =>
      exact ⟨_, runBuiltin_eq settings b args s, ⟨name, hwords, hbuiltin⟩, rfl⟩
    | none =>
      obtain ⟨r, hr, hcalls⟩ := exists_runCall settings name args s
      obtain ⟨hbound, hstore⟩ := Law.bindsNothing_basics.runCall name args s r hr
      exact ⟨r, hr, hwords, hbuiltin, hbound, hstore, hcalls⟩

/-- **Values do not change what a line is.**  Under any variables, a line that is neither a script
nor a loop is run as what its text says, and each of its words is expanded by itself. -/
theorem execute_unfolds {s : Session ρ} {line : String}
    (hscript : ∀ path, Command.ofLine s.files line ≠ .script path)
    (hloop : ∀ l, Command.ofLine s.files line ≠ .loop l) (depth : Nat) (store : Store) :
    ∃ run, Action.execute settings (depth + 1) line { s with store := store } = some run ∧
      (Command.ofLine s.files line).Unfolds settings line { s with store := store } run := by
  rw [execute_eq]
  show ∃ run, runCommand settings _ (Command.ofLine s.files line) _ = some run ∧ _
  rcases Command.ofLine_cases s.files line with
    h | ⟨path, h⟩ | ⟨a, h⟩ | ⟨l, h⟩ | h | h
  · rw [h]
    exact ⟨_, rfl, rfl⟩
  · exact absurd h (hscript path)
  · rw [h]
    exact ⟨_, assign_eq a _, rfl⟩
  · exact absurd h (hloop l)
  · rw [h]
    obtain ⟨run, hrun, hcalls⟩ := exists_runPipeline_callsSegments settings
      (Text.trim line) { s with store := store }
    obtain ⟨hbound, hstore⟩ := Law.bindsNothing_basics.runPipeline _ _ run hrun
    exact ⟨run, hrun, rfl, hbound, hstore, hcalls⟩
  · rw [h]
    exact exists_runWords _ line _

/-- The value has quotes, a pipe, a directive, a semicolon and a reference in it, and is one
argument all the same. -/
theorem execute_unfolds_value :
    (∀ path, Command.ofLine Sample.session.files "args $x \"p $x\" | args $x" ≠ .script path) ∧
      (∀ l, Command.ofLine Sample.session.files "args $x \"p $x\" | args $x" ≠ .loop l) ∧
      Pipe.moduleSegments "args $x \"p $x\" | args $x" = ["args $x \"p $x\" ", " args $x"] ∧
      ∃ run, Action.execute Sample.settings 1 "args $x \"p $x\" | args $x"
          { Sample.session with store := Store.empty.set "x" "1 \"2\" | pp; $x" } = some run ∧
        run.trace.calls =
          [("args", ["1 \"2\" | pp; $x", "p 1 \"2\" | pp; $x"]),
            ("args", ["1 \"2\" | pp; $x", "1 \"2\" | pp; $x", "p 1 \"2\" | pp; $x"])] ∧
        (Command.pipeline "args $x \"p $x\" | args $x").Unfolds Sample.settings
          "args $x \"p $x\" | args $x"
          { Sample.session with store := Store.empty.set "x" "1 \"2\" | pp; $x" } run := by
  have hline : Command.ofLine Sample.session.files "args $x \"p $x\" | args $x" =
      .pipeline "args $x \"p $x\" | args $x" := by decide +kernel
  have hscript : ∀ path,
      Command.ofLine Sample.session.files "args $x \"p $x\" | args $x" ≠ .script path := by
    intro path h
    rw [hline] at h
    cases h
  have hloop : ∀ l,
      Command.ofLine Sample.session.files "args $x \"p $x\" | args $x" ≠ .loop l := by
    intro l h
    rw [hline] at h
    cases h
  have hmodules : Pipe.moduleSegments "args $x \"p $x\" | args $x" =
      ["args $x \"p $x\" ", " args $x"] := by decide +kernel
  have hcalls : (Action.execute Sample.settings 1 "args $x \"p $x\" | args $x"
      { Sample.session with store := Store.empty.set "x" "1 \"2\" | pp; $x" }).map
        (·.trace.calls) =
      some [("args", ["1 \"2\" | pp; $x", "p 1 \"2\" | pp; $x"]),
        ("args", ["1 \"2\" | pp; $x", "1 \"2\" | pp; $x", "p 1 \"2\" | pp; $x"])] := by
    decide +kernel
  obtain ⟨run, hrun, hunfolds⟩ := @execute_unfolds _ Sample.settings _ _ hscript hloop 0
    (Store.empty.set "x" "1 \"2\" | pp; $x")
  rw [hline] at hunfolds
  rw [hrun, Option.map_some, Option.some_inj] at hcalls
  exact ⟨hscript, hloop, hmodules, run, hrun, hcalls, hunfolds⟩

end JsonShell
