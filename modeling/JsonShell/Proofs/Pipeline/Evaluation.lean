import JsonShell.Proofs.Pipeline.Plan
import JsonShell.Proofs.Session.Run
import JsonShell.Proofs.Session.Sample

/-!
# What a pipeline comes to

A plan says what a pipeline is; `Plan.Evaluates` says what comes of it: which calls are made and
with what arguments, where the run stops, what is printed and what the result is.  It does so by
looking at the calls of a whole run at once, and speaks of no stages that are worked off.  The last
record is offered to the output once; if that refuses it, the refusal is the result.  Still it
leaves no choice: a plan comes to one outcome at most (`Plan.Evaluates.unique`), and to that of the
run of its line (`execute_pipeline`).

The proof first turns the stages into legs (`Action.runStages_eq`), since directives between modules
are only ever looked at together.  Then it is an induction over the legs, where
`Plan.Evaluates.cons` puts the call of the first leg in front of what comes of the other ones.
-/

set_option autoImplicit false

namespace JsonShell

variable {ρ : Type}

/-! ## Outcomes -/

/-- Calls with their answers, texts that are printed, and a result. -/
structure Outcome where
  calls : List AnsweredCall
  printed : List String
  result : Except Failure Unit

/-- What is seen of a run. -/
def Run.outcome (run : Run ρ Unit) : Outcome :=
  ⟨run.trace.answered, run.trace.printed, run.result⟩

/-- The record that a call gave. -/
def AnsweredCall.record? (call : AnsweredCall) : Option Record :=
  match call.answer with
  | .ok record => record
  | .error _ => none

/-- The record at hand after calls: that of the last one, or the one at the start if there was no
call. -/
def recordAfter (start : Option Record) (calls : List AnsweredCall) : Option Record :=
  match calls.getLast? with
  | some call => call.record?
  | none => start

theorem recordAfter_cons (start : Option Record) (call : AnsweredCall)
    (calls : List AnsweredCall) :
    recordAfter start (call :: calls) = recordAfter call.record? calls := by
  rw [recordAfter, recordAfter, List.getLast?_cons]
  cases calls.getLast? <;> rfl

namespace Action

/-- The session after calls. -/
def calledAll (settings : Settings ρ) (s : Session ρ) (calls : List AnsweredCall) : Session ρ :=
  calls.foldl (fun s call => called settings call.name call.args s) s

/-- A module is found in a session. -/
def Finds (settings : Settings ρ) (s : Session ρ) (name : String) : Prop :=
  (settings.runner.find? s.modules s.files name).isSome

end Action

/-! ## Evaluations -/

namespace Plan

open JsonShell.Action

variable {settings : Settings ρ} {s : Session ρ}

/-- The call of a leg, after the calls of the legs before it. -/
structure IsCallOf (settings : Settings ρ) (s : Session ρ) (start : Option Record)
    (before : List AnsweredCall) (leg : Leg) (call : AnsweredCall) : Prop where
  name : call.name = s.store.expand leg.name
  /-- The words of the leg come first, and then the output at hand after all selections. -/
  args : call.args = leg.args.map s.store.expand ++
    project ((recordAfter start before).bind fun r => (r.selected leg.directives).output)
  answer : call.answer = answer settings call.name call.args (calledAll settings s before)
  /-- Without a record at hand the module is the head, and that is called in any case. -/
  found : (recordAfter start before).isSome → Finds settings (calledAll settings s before) call.name

/-- The ways in which a run ends after some calls. -/
inductive Ends (p : Plan) (settings : Settings ρ) (s : Session ρ) (calls : List AnsweredCall) :
    List String → Except Failure Unit → Prop
  /-- The last call failed. -/
  | failed {call : AnsweredCall} {failure : Failure} (last : calls.getLast? = some call)
      (answer : call.answer = .error failure) : Ends p settings s calls [] (.error failure)
  /-- The last call gave no record. -/
  | silent {call : AnsweredCall} (last : calls.getLast? = some call)
      (answer : call.answer = .ok none) : Ends p settings s calls [] (.ok ())
  /-- The module of the next leg is not found. -/
  | unknown {r : Record} {leg : Leg} (hand : recordAfter p.literal? calls = some r)
      (next : p.legs[calls.length]? = some leg)
      (missing : ¬Finds settings (calledAll settings s calls) (s.store.expand leg.name)) :
      Ends p settings s calls [] (.error (.unknownStage (s.store.expand leg.name)))
  /-- There is no further leg, and the output takes what it is shown. -/
  | shown {r : Record} (hand : recordAfter p.literal? calls = some r)
      (all : calls.length = p.legs.length)
      (takes : s.output.refusal? ((r.directed p.finish).render settings.colors) = none) :
      Ends p settings s calls [(r.directed p.finish).render settings.colors] (.ok ())
  /-- There is no further leg, and the output refuses what it is shown. -/
  | refused {r : Record} {refusal : Refusal} (hand : recordAfter p.literal? calls = some r)
      (all : calls.length = p.legs.length)
      (refuses :
        s.output.refusal? ((r.directed p.finish).render settings.colors) = some refusal) :
      Ends p settings s calls [refusal.part ((r.directed p.finish).render settings.colors)]
        (.error (.io refusal.fault))

/-- The plan comes to the outcome. -/
structure Evaluates (p : Plan) (settings : Settings ρ) (s : Session ρ) (o : Outcome) : Prop where
  /-- The calls are those of the legs, in order and from the first leg on. -/
  call : ∀ before call after, o.calls = before ++ call :: after →
    ∃ leg, p.legs[before.length]? = some leg ∧ IsCallOf settings s p.literal? before leg call
  /-- A call comes after another one only if that gave a record. -/
  goesOn : ∀ before call next after, o.calls = before ++ call :: next :: after →
    call.record?.isSome
  ends : p.Ends settings s o.calls o.printed o.result

/-! ### The first leg and the others -/

/-- Calls after a first one are calls in the session after it, with its record at the start. -/
theorem IsCallOf.cons {start : Option Record} {first call : AnsweredCall}
    {before : List AnsweredCall} {leg : Leg}
    (h : IsCallOf settings (called settings first.name first.args s) first.record? before leg
      call) :
    IsCallOf settings s start (first :: before) leg call where
  name := h.name
  args := by
    rw [recordAfter_cons]
    exact h.args
  answer := h.answer
  found := by
    rw [recordAfter_cons]
    exact h.found

theorem Ends.cons {start : Option Record} {first : AnsweredCall} {leg : Leg} {legs : List Leg}
    {finish : List Stage} {calls : List AnsweredCall} {printed : List String}
    {result : Except Failure Unit}
    (h : Ends ⟨first.record?, legs, finish⟩ settings (called settings first.name first.args s) calls
      printed result) :
    Ends ⟨start, leg :: legs, finish⟩ settings s (first :: calls) printed result := by
  cases h with
  | failed last answer => exact .failed (by rw [List.getLast?_cons, last]; rfl) answer
  | silent last answer => exact .silent (by rw [List.getLast?_cons, last]; rfl) answer
  | unknown hand next missing =>
    exact .unknown ((recordAfter_cons start first calls).trans hand) next missing
  | shown hand all takes =>
    exact .shown ((recordAfter_cons start first calls).trans hand) (congrArg (· + 1) all) takes
  | refused hand all refuses =>
    exact .refused ((recordAfter_cons start first calls).trans hand) (congrArg (· + 1) all) refuses

/-- What comes of a plan after its first call. -/
theorem Evaluates.cons {start : Option Record} {first : AnsweredCall} {leg : Leg} {legs : List Leg}
    {finish : List Stage} {r : Record} {o : Outcome}
    (hfirst : IsCallOf settings s start [] leg first) (hr : first.record? = some r)
    (h : Evaluates ⟨some r, legs, finish⟩ settings (called settings first.name first.args s) o) :
    Evaluates ⟨start, leg :: legs, finish⟩ settings s ⟨first :: o.calls, o.printed, o.result⟩ := by
  rw [← hr] at h
  refine ⟨fun before call after heq => ?_, fun before call next after heq => ?_, h.ends.cons⟩
  · cases before with
    | nil =>
      obtain ⟨rfl, rfl⟩ := List.cons.inj heq
      exact ⟨leg, rfl, hfirst⟩
    | cons b before =>
      obtain ⟨rfl, hrest⟩ := List.cons.inj heq
      obtain ⟨leg', hleg', hcall⟩ := h.call before call after hrest
      exact ⟨leg', hleg', hcall.cons⟩
  · cases before with
    | nil =>
      obtain ⟨rfl, -⟩ := List.cons.inj heq
      exact Option.isSome_of_eq_some hr
    | cons b before =>
      obtain ⟨rfl, hrest⟩ := List.cons.inj heq
      exact h.goesOn before call next after hrest

/-- What comes of a plan that ends before its first call. -/
theorem evaluates_of_ends {p : Plan} {printed : List String} {result : Except Failure Unit}
    (h : p.Ends settings s [] printed result) : p.Evaluates settings s ⟨[], printed, result⟩ where
  call before call after heq := absurd heq.symm (by simp)
  goesOn before call next after heq := absurd heq.symm (by simp)
  ends := h

/-- What comes of a plan that ends with its first call. -/
theorem evaluates_of_ends_single {start : Option Record} {call : AnsweredCall} {leg : Leg}
    {legs : List Leg} {finish : List Stage} {printed : List String} {result : Except Failure Unit}
    (hcall : IsCallOf settings s start [] leg call)
    (h : Ends ⟨start, leg :: legs, finish⟩ settings s [call] printed result) :
    Evaluates ⟨start, leg :: legs, finish⟩ settings s ⟨[call], printed, result⟩ where
  call before c after heq := by
    obtain ⟨rfl, rfl, rfl⟩ : before = [] ∧ c = call ∧ after = [] := by
      cases before with
      | nil =>
        obtain ⟨rfl, rfl⟩ := List.cons.inj heq
        exact ⟨rfl, rfl, rfl⟩
      | cons b before => simp at heq
    exact ⟨leg, rfl, hcall⟩
  goesOn before c next after heq := by
    have hlength := congrArg List.length heq
    simp only [List.length_append, List.length_cons, List.length_nil] at hlength
    omega
  ends := h

/-! ### There is one outcome only -/

theorem IsCallOf.unique {start : Option Record} {before : List AnsweredCall} {leg : Leg}
    {call call' : AnsweredCall} (h : IsCallOf settings s start before leg call)
    (h' : IsCallOf settings s start before leg call') : call = call' := by
  obtain ⟨name, args, answer⟩ := call
  obtain ⟨name', args', answer'⟩ := call'
  have hname : name = name' := h.name.trans h'.name.symm
  have hargs : args = args' := h.args.trans h'.args.symm
  subst hname hargs
  have hanswer : answer = answer' := h.answer.trans h'.answer.symm
  rw [hanswer]

/-- Calls with which a run ends are not all calls but the last ones of a longer run. -/
theorem Evaluates.not_ends {p : Plan} {o : Outcome} (h : p.Evaluates settings s o)
    {before after : List AnsweredCall} {call : AnsweredCall}
    (heq : o.calls = before ++ call :: after) {printed : List String} {result : Except Failure Unit} :
    ¬p.Ends settings s before printed result := by
  have hlast : ∀ c, before.getLast? = some c → c.record? ≠ none := by
    intro c hc
    obtain ⟨init, rfl⟩ := List.getLast?_eq_some_iff.1 hc
    rw [List.append_assoc] at heq
    exact Option.isSome_iff_ne_none.1 (h.goesOn init c call after heq)
  obtain ⟨leg, hleg, hcall⟩ := h.call before call after heq
  intro hends
  cases hends with
  | failed last answer => exact hlast _ last (by rw [AnsweredCall.record?, answer])
  | silent last answer => exact hlast _ last (by rw [AnsweredCall.record?, answer])
  | unknown hand next missing =>
    rw [hleg, Option.some_inj] at next
    rw [← next, ← hcall.name] at missing
    exact missing (hcall.found (Option.isSome_of_eq_some hand))
  | shown hand all _ | refused hand all _ =>
    rw [all, List.getElem?_eq_none_iff.2 (Nat.le_refl _)] at hleg
    cases hleg

/-- What is printed and given at the end of a run that ends after these calls. -/
def ending (p : Plan) (settings : Settings ρ) (s : Session ρ) (calls : List AnsweredCall) :
    List String × Except Failure Unit :=
  match recordAfter p.literal? calls with
  | some r =>
    match p.legs[calls.length]? with
    | some leg => ([], .error (.unknownStage (s.store.expand leg.name)))
    | none =>
      let text := (r.directed p.finish).render settings.colors
      match s.output.refusal? text with
      | none => ([text], .ok ())
      | some refusal => ([refusal.part text], .error (.io refusal.fault))
  | none => ([], (calls.getLast?.map fun call => call.answer.map fun _ => ()).getD (.ok ()))

/-- How a run ends is determined by its calls. -/
theorem Ends.eq_ending {p : Plan} {calls : List AnsweredCall} {printed : List String}
    {result : Except Failure Unit} (h : p.Ends settings s calls printed result) :
    (printed, result) = p.ending settings s calls := by
  cases h with
  | failed last answer => simp [ending, recordAfter, last, AnsweredCall.record?, answer, Except.map]
  | silent last answer => simp [ending, recordAfter, last, AnsweredCall.record?, answer, Except.map]
  | unknown hand next => rw [ending, hand, next]
  | shown hand all takes =>
    simp only [ending, hand, all, List.getElem?_eq_none_iff.2 (Nat.le_refl _), takes]
  | refused hand all refuses =>
    simp only [ending, hand, all, List.getElem?_eq_none_iff.2 (Nat.le_refl _), refuses]

/-- Two evaluations with some calls in common go on in the same way: none of them goes on where the
other one ends, and the next call is that of the same leg. -/
theorem Evaluates.rest_unique {p : Plan} {o o' : Outcome} (h : p.Evaluates settings s o)
    (h' : p.Evaluates settings s o') {before rest rest' : List AnsweredCall}
    (heq : o.calls = before ++ rest) (heq' : o'.calls = before ++ rest') : rest = rest' := by
  induction rest generalizing before rest' with
  | nil =>
    cases rest' with
    | nil => rfl
    | cons call rest' =>
      rw [List.append_nil] at heq
      exact absurd (heq ▸ h.ends) (h'.not_ends heq')
  | cons call rest ih =>
    cases rest' with
    | nil =>
      rw [List.append_nil] at heq'
      exact absurd (heq' ▸ h'.ends) (h.not_ends heq)
    | cons call' rest' =>
      obtain ⟨leg, hleg, hcall⟩ := h.call before call rest heq
      obtain ⟨leg', hleg', hcall'⟩ := h'.call before call' rest' heq'
      rw [hleg, Option.some_inj] at hleg'
      rw [← hleg'] at hcall'
      have hsame : call = call' := hcall.unique hcall'
      rw [← hsame, List.append_cons] at heq'
      rw [List.append_cons] at heq
      rw [hsame, ih heq heq']

/-- **A plan comes to one outcome only.** -/
theorem Evaluates.unique {p : Plan} {o o' : Outcome} (h : p.Evaluates settings s o)
    (h' : p.Evaluates settings s o') : o = o' := by
  have hcalls : o.calls = o'.calls :=
    h.rest_unique h' (List.nil_append o.calls).symm (List.nil_append o'.calls).symm
  have hends := h.ends.eq_ending
  rw [hcalls, ← h'.ends.eq_ending] at hends
  obtain ⟨calls, printed, result⟩ := o
  obtain ⟨calls', printed', result'⟩ := o'
  obtain ⟨rfl, rfl⟩ := Prod.mk.inj hends
  rw [Outcome.mk.injEq]
  exact ⟨hcalls, rfl, rfl⟩

end Plan

/-! ## Running a pipeline -/

namespace Action

variable {settings : Settings ρ}

theorem answered_callTrace (name : String) (args : List String) (s : Session ρ) :
    (callTrace settings name args s).answered = [⟨name, args, answer settings name args s⟩] := by
  rw [callTrace, Trace.answered_append, Trace.answered, filterMap_chatter fun _ => rfl]
  rfl

theorem printed_callTrace (name : String) (args : List String) (s : Session ρ) :
    (callTrace settings name args s).printed = [] := by
  rw [callTrace, Trace.printed_append, Trace.printed, filterMap_chatter fun _ => rfl]
  rfl

/-- What is seen of a call and of what comes after it. -/
theorem outcome_after_callTrace (name : String) (args : List String) (s : Session ρ)
    (run : Run ρ Unit) :
    (run.after (callTrace settings name args s)).outcome =
      ⟨⟨name, args, answer settings name args s⟩ :: run.outcome.calls, run.outcome.printed,
        run.outcome.result⟩ := by
  rw [Run.after, Run.outcome, Trace.answered_append, Trace.printed_append, answered_callTrace,
    printed_callTrace]
  rfl

/-- Calls the module of a leg and goes on with the legs after it, which come to what they come to
from the record of the call. -/
theorem exists_run_of_call {start : Option Record} {leg : Leg} {legs : List Leg}
    {finish : List Stage} {x : Action ρ (Option Record)} {next : Option Record → Action ρ Unit}
    {s : Session ρ}
    (hx : x s = call settings (s.store.expand leg.name) (leg.args.map s.store.expand ++
      project (start.bind fun r => (r.selected leg.directives).output)) s)
    (hfound : start.isSome → Finds settings s (s.store.expand leg.name))
    (hnone : ∀ t, next none t = some ⟨t, [], .ok ()⟩)
    (hsome : ∀ r t, ∃ run, next (some r) t = some run ∧
      Plan.Evaluates ⟨some r, legs, finish⟩ settings t run.outcome) :
    ∃ run, (x >>= next) s = some run ∧
      Plan.Evaluates ⟨start, leg :: legs, finish⟩ settings s run.outcome := by
  generalize hname : s.store.expand leg.name = name at hfound hx
  generalize hargs : leg.args.map s.store.expand ++
    project (start.bind fun r => (r.selected leg.directives).output) = args at hx
  have hcall : Plan.IsCallOf settings s start [] leg
      ⟨name, args, answer settings name args s⟩ :=
    ⟨hname.symm, hargs.symm, rfl, hfound⟩
  rw [call_eq] at hx
  cases hanswer : answer settings name args s with
  | error failure =>
    rw [hanswer] at hx hcall
    refine ⟨_, bind_of_error hx, ?_⟩
    have hreports : ∀ e ∈ callReports settings (called settings name args s)
        (callText name args) failure, e.IsReport := fun e he => isReport_of_mem_callReports he
    have hanswered : Trace.answered _ = [] :=
      filterMap_reports hreports (fun _ => rfl) fun _ => rfl
    have hprinted : Trace.printed _ = [] :=
      filterMap_reports hreports (fun _ => rfl) fun _ => rfl
    have hends : Plan.Ends ⟨start, leg :: legs, finish⟩ settings s
        [⟨name, args, .error failure⟩] [] (.error failure) := .failed rfl rfl
    rw [Run.outcome, Trace.answered_append, Trace.printed_append, answered_callTrace,
      printed_callTrace, hanswered, hprinted, hanswer]
    exact Plan.evaluates_of_ends_single hcall hends
  | ok record =>
    rw [hanswer] at hx
    rw [bind_of_ok hx]
    cases record with
    | none =>
      rw [hnone]
      refine ⟨_, rfl, ?_⟩
      rw [outcome_after_callTrace, hanswer]
      rw [hanswer] at hcall
      exact Plan.evaluates_of_ends_single hcall (.silent rfl rfl)
    | some r =>
      obtain ⟨run, hrun, hevaluates⟩ := hsome r (called settings name args s)
      rw [hrun]
      refine ⟨_, rfl, ?_⟩
      rw [outcome_after_callTrace]
      exact hevaluates.cons hcall (by rw [AnsweredCall.record?, hanswer])

/-- Runs legs on a record, one after the other, and shows the last record. -/
def runLegs (settings : Settings ρ) (line : String) (finish : List Stage) :
    List Leg → Record → Action ρ Unit
  | [], r => showRecord settings (r.directed finish)
  | leg :: legs, r => do
    match ← callStage settings line leg.name leg.args (r.selected leg.directives) with
    | some r => runLegs settings line finish legs r
    | none => pure ()

/-- Of a record, a stage that calls a module only sees the output. -/
theorem callStage_congr {line name : String} {args : List String} {r r' : Record}
    (h : r.output = r'.output) :
    callStage settings line name args r = callStage settings line name args r' := by
  rw [callStage, callStage, h]

/-- A directive can be put in front of the first leg, or of the directives after all legs. -/
theorem runLegs_directive {line : String} {directive : Stage} (rest : List Stage) (r : Record)
    (hcall : ∀ name args, directive ≠ .call name args) :
    runLegs settings line (Plan.legsOf rest).2 (Plan.legsOf rest).1 (directive.apply r) =
      runLegs settings line (Plan.legsOf (directive :: rest)).2
        (Plan.legsOf (directive :: rest)).1 r := by
  rw [Plan.legsOf]
  rcases Plan.legsOf rest with ⟨_ | ⟨leg, legs⟩, finish⟩
  · dsimp only
    rw [runLegs, runLegs, ← Record.foldl_apply, ← Record.foldl_apply]
    rfl
  · dsimp only
    have houtput : ((directive.apply r).selected leg.directives).output =
        (r.selected (directive :: leg.directives)).output := by
      cases directive with
      | select fields => rfl
      | display mode => rw [Stage.apply, Record.selected_withDisplay]; rfl
      | call name args => rfl
    rw [runLegs, runLegs, callStage_congr houtput]
  · exact hcall

/-- Running the stages is running the legs that they make. -/
theorem runStages_eq (line : String) (stages : List String) (r : Record) :
    runStages settings line stages r =
      runLegs settings line (Plan.legsOf (stages.filterMap Stage.parse?)).2
        (Plan.legsOf (stages.filterMap Stage.parse?)).1 r := by
  induction stages generalizing r with
  | nil => rfl
  | cons segment rest ih =>
    rw [runStages]
    cases hstage : Stage.parse? segment with
    | none =>
      rw [List.filterMap_cons_none hstage]
      exact ih r
    | some stage =>
      rw [List.filterMap_cons_some hstage]
      cases stage with
      | call name args =>
        rw [Plan.legsOf, runLegs]
        refine congrArg (callStage settings line name args r >>= ·) (funext fun answer => ?_)
        cases answer with
        | none => rfl
        | some next => exact ih next
      | select fields => rw [← runLegs_directive _ _ (by simp)]; exact ih _
      | display mode => rw [← runLegs_directive _ _ (by simp)]; exact ih _

/-- A plan without legs comes to showing its record. -/
theorem evaluates_showRecord (finish : List Stage) (r : Record) (s : Session ρ) :
    ∃ run, showRecord settings (r.directed finish) s = some run ∧
      Plan.Evaluates ⟨some r, [], finish⟩ settings s run.outcome := by
  refine ⟨_, showRecord_eq settings _ s, ?_⟩
  rw [writeRun]
  cases hrefusal : s.output.refusal? ((r.directed finish).render settings.colors) with
  | none => exact Plan.evaluates_of_ends (.shown rfl rfl hrefusal)
  | some refusal => exact Plan.evaluates_of_ends (.refused rfl rfl hrefusal)

/-- **Legs are run as the plan says.** -/
theorem exists_runLegs (line : String) (finish : List Stage) (legs : List Leg) (r : Record)
    (s : Session ρ) :
    ∃ run, runLegs settings line finish legs r s = some run ∧
      Plan.Evaluates ⟨some r, legs, finish⟩ settings s run.outcome := by
  induction legs generalizing r s with
  | nil => exact evaluates_showRecord finish r s
  | cons leg legs ih =>
    by_cases hfound : Finds settings s (s.store.expand leg.name)
    · have hcall : callStage settings line leg.name leg.args (r.selected leg.directives) s =
          call settings (s.store.expand leg.name) (leg.args.map s.store.expand ++
            project (r.selected leg.directives).output) s := by
        rw [callStage, session_bind, if_neg]
        rw [Option.isNone_iff_eq_none, ← ne_eq, ← Option.isSome_iff_ne_none]
        exact hfound
      rw [runLegs]
      exact exists_run_of_call hcall (fun _ => hfound) (fun _ => rfl) ih
    · have hrefuse : callStage settings line leg.name leg.args (r.selected leg.directives) s =
          refuseStage line (s.store.expand leg.name) s := by
        rw [callStage, session_bind, if_pos]
        rw [Option.isNone_iff_eq_none, ← Option.not_isSome_iff_eq_none]
        exact hfound
      rw [refuseStage_eq] at hrefuse
      rw [runLegs]
      exact ⟨_, bind_of_error hrefuse, Plan.evaluates_of_ends (.unknown rfl rfl hfound)⟩

theorem runPipeline_eq_of_parse_eq_empty {line head : String} {stages : List String}
    (hsegments : segments line = head :: stages) (hhead : Head.parse head = .empty)
    (s : Session ρ) : runPipeline settings line s = some ⟨s, [], .ok ()⟩ := by
  have hrun : runHead settings head s = some ⟨s, [], .ok none⟩ := by
    rw [runHead, hhead]
    rfl
  rw [runPipeline, hsegments]
  exact bind_of_ok hrun

theorem exists_runPipeline {line head : String} {stages : List String} {plan : Plan}
    (hsegments : segments line = head :: stages) (hplan : Plan.ofSegments? head stages = some plan)
    (s : Session ρ) :
    ∃ run, runPipeline settings line s = some run ∧ plan.Evaluates settings s run.outcome := by
  rw [runPipeline, hsegments]
  rw [Plan.ofSegments?] at hplan
  cases hhead : Head.parse head with
  | empty =>
    rw [hhead] at hplan
    cases hplan
  | literal r =>
    rw [hhead, Option.some_inj] at hplan
    have hrun : runHead settings head s = some ⟨s, [], .ok (some r)⟩ := by
      rw [runHead, hhead]
      rfl
    dsimp only
    rw [← hplan, bind_of_ok hrun, map_after_nil]
    dsimp only
    rw [runStages_eq]
    exact exists_runLegs line _ _ r s
  | command name args =>
    rw [hhead, Option.some_inj] at hplan
    have hrun : runHead settings head s =
        call settings (s.store.expand name) (args.map s.store.expand ++ project none) s := by
      rw [runHead, hhead, project, List.append_nil]
      exact session_bind _ s
    rw [← hplan]
    refine exists_run_of_call hrun (by simp) (fun _ => rfl) fun r t => ?_
    dsimp only
    rw [runStages_eq]
    exact exists_runLegs line _ _ r t

end Action

/-- **A pipeline comes to what its plan says, and to nothing else.**  Without a head it does nothing
at all. -/
theorem execute_pipeline {settings : Settings ρ} {s : Session ρ} {text line : String}
    (h : Command.ofLine s.files text = .pipeline line) (depth : Nat) :
    ∃ head stages run, segments line = head :: stages ∧
      Action.execute settings (depth + 1) text s = some run ∧
      (Text.trim head = "" ∨ Text.trim head = "\"" → run = ⟨s, [], .ok ()⟩) ∧
      (Text.trim head ≠ "" → Text.trim head ≠ "\"" →
        ∃ plan, Plan.ofSegments? head stages = some plan ∧
          ∀ o, plan.Evaluates settings s o ↔ o = run.outcome) := by
  rw [Action.execute_eq, h, Action.runCommand]
  obtain ⟨head, stages, hsegments⟩ : ∃ head stages, segments line = head :: stages := by
    refine List.exists_cons_of_ne_nil fun hnil => ?_
    exact Pipe.segmentChars_ne_nil _ (List.map_eq_nil_iff.1 hnil)
  refine ⟨head, stages, ?_⟩
  cases hplan : Plan.ofSegments? head stages with
  | none =>
    have hhead := (Plan.ofSegments?_eq_none_iff head stages).1 hplan
    refine ⟨_, hsegments, Action.runPipeline_eq_of_parse_eq_empty hsegments hhead s,
      fun _ => rfl, fun hne hquote => ?_⟩
    exact absurd ((Head.parse_eq_empty_iff head).1 hhead) (not_or.2 ⟨hne, hquote⟩)
  | some plan =>
    obtain ⟨run, hrun, hevaluates⟩ : ∃ run, Action.runPipeline settings line s = some run ∧
      plan.Evaluates settings s run.outcome := Action.exists_runPipeline hsegments hplan s
    refine ⟨run, hsegments, hrun, fun hhead => ?_, fun _ _ => ⟨plan, rfl, fun o => ?_⟩⟩
    · have hnone := (Plan.ofSegments?_eq_none_iff head stages).2
        ((Head.parse_eq_empty_iff head).2 hhead)
      rw [hplan] at hnone
      cases hnone
    · constructor
      · exact fun ho => ho.unique hevaluates
      · rintro rfl
        exact hevaluates

/-- The map that the first module gives is narrowed down and handed to the second one. -/
theorem execute_pipeline_info :
    Command.ofLine Sample.session.files "info | select b | args $y x | pp" =
        .pipeline "info | select b | args $y x | pp" ∧
      ∃ plan run, Plan.ofSegments? "info " [" select b ", " args $y x ", " pp"] = some plan ∧
        Action.execute Sample.settings 2 "info | select b | args $y x | pp" Sample.session =
          some run ∧
        run.trace.calls = [("info", []), ("args", ["", "x", "\x7b\"b\":2\x7d"])] ∧
        ∀ o, plan.Evaluates Sample.settings Sample.session o ↔ o = run.outcome := by
  have hline : Command.ofLine Sample.session.files "info | select b | args $y x | pp" =
      .pipeline "info | select b | args $y x | pp" := by decide +kernel
  have hcalls : (Action.execute Sample.settings 2 "info | select b | args $y x | pp"
      Sample.session).map (·.trace.calls) =
        some [("info", []), ("args", ["", "x", "\x7b\"b\":2\x7d"])] := by decide +kernel
  have hsegments : segments "info | select b | args $y x | pp" =
      ["info ", " select b ", " args $y x ", " pp"] := by decide +kernel
  have hblank : Text.trim "info " ≠ "" := by decide +kernel
  have hquote : Text.trim "info " ≠ "\"" := by decide +kernel
  obtain ⟨head, stages, run, hcut, hrun, -, hplan⟩ :=
    @execute_pipeline _ Sample.settings _ _ _ hline 1
  rw [hsegments] at hcut
  obtain ⟨rfl, rfl⟩ := List.cons.inj hcut
  obtain ⟨plan, hplan, hevaluates⟩ := hplan hblank hquote
  rw [hrun, Option.map_some, Option.some_inj] at hcalls
  exact ⟨hline, plan, run, hplan, hrun, hcalls, hevaluates⟩

/-- A head without words may still be a literal: that of two quotes is the empty text, and it is
shown. -/
theorem execute_pipeline_emptyText :
    Command.ofLine Sample.session.files "\"\" | pp" = .pipeline "\"\" | pp" ∧
      segments "\"\" | pp" = ["\"\" ", " pp"] ∧ tokenize (Text.trim "\"\" ") = [] ∧
      ∃ run, Action.execute Sample.settings 1 "\"\" | pp" Sample.session = some run ∧
        run.trace.output = "\n\n\n" ∧ run ≠ ⟨Sample.session, [], .ok ()⟩ := by
  have hline : Command.ofLine Sample.session.files "\"\" | pp" = .pipeline "\"\" | pp" := by
    decide +kernel
  have hsegments : segments "\"\" | pp" = ["\"\" ", " pp"] := by decide +kernel
  have hwords : tokenize (Text.trim "\"\" ") = [] := by decide +kernel
  have houtput : (Action.execute Sample.settings 1 "\"\" | pp" Sample.session).map
      (·.trace.output) = some "\n\n\n" := by decide +kernel
  obtain ⟨run, hrun, houtput⟩ := Option.map_eq_some_iff.1 houtput
  refine ⟨hline, hsegments, hwords, run, hrun, houtput, ?_⟩
  rintro rfl
  exact absurd houtput (by decide)

end JsonShell
