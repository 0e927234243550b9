import JsonShell.Proofs.Session.Law
import JsonShell.Proofs.Session.Sample

/-!
# What a run does to the variables

There is one store for the whole session, and lines at any depth of loops and scripts may write to
it.  Still a run touches no variable that it does not name: `execute_store_frame` says that a
variable which no assignment and no loop of the run binds is what it was before.  The trace tells
which variables those are, so nothing has to be known of the lines in advance.

A loop leaves its variable unbound, whatever its body did to it and wherever it was aborted, be it
by an output that takes no more (`execute_loop`).  A loop whose source is no range leaves everything
as it was.
-/

set_option autoImplicit false

namespace JsonShell

variable {ρ : Type} {settings : Settings ρ}

namespace Law

open JsonShell.Action

/-! ## Commands that leave the store alone -/

/-- The store is what it was. -/
def sameStore : Law ρ where
  Holds s _ _ t := t.store = s.store
  nil _ := rfl
  append h hrest := hrest.trans h

theorem sameStore_raise (cause : Failure) : sameStore.Governs (raise cause : Action ρ Unit) :=
  governs_of_eq (fun _ => rfl) fun _ => rfl

theorem sameStore_basics : sameStore.Basics settings where
  offer _ := governs_of_eq (fun _ => rfl) fun _ => rfl
  call name args := by
    intro s run hrun
    obtain ⟨modules, files, hsession⟩ := session_of_call hrun
    show run.session.store = s.store
    rw [hsession]
  refuse line name := governs_of_eq (refuseStage_eq line name) fun _ => rfl
  raise cause _ := sameStore_raise cause

/-! ## A variable that a run does not bind -/

/-- The variable is what it was, unless the run binds it. -/
def keeps (x : String) : Law ρ where
  Holds s trace _ t := x ∉ trace.bound → t.store.get? x = s.store.get? x
  nil _ _ := rfl
  append := by
    intro s t u trace rest failure h hrest hx
    rw [Trace.bound_append, List.mem_append, not_or] at hx
    exact (hrest hx.2).trans (h hx.1)

variable {x : String}

theorem keeps_of_sameStore {s t : Session ρ} {trace : Trace} {failure : Option Failure}
    (h : sameStore.Holds s trace failure t) : (keeps x).Holds s trace failure t := by
  intro _
  rw [show t.store = s.store from h]

theorem keeps_basics : (keeps x).Basics settings :=
  sameStore_basics.mono keeps_of_sameStore

theorem keeps_stored (a : Assignment) (s : Session ρ) :
    (keeps x).Holds s [.assigned a.name a.value] none (stored a.name a.value s) := by
  intro hx
  have hne : x ≠ a.name := by
    rintro rfl
    exact hx List.mem_cons_self
  show (s.store.set a.name a.value).get? x = s.store.get? x
  rw [Store.get?_set, if_neg hne]

/-- If the loop is over `x` itself, its trace says so.  Otherwise neither binding nor unbinding its
variable touches `x`. -/
theorem keeps_runLoop (run : String → Action ρ Unit) (hrun : ∀ line, (keeps x).Governs (run line))
    (l : Loop) : (keeps x).Governs (runLoop run l) := by
  have hraise : ∀ cause, cause.IsSilent → (keeps x).Governs (raise cause : Action ρ Unit) :=
    fun cause _ => (sameStore_raise cause).mono keeps_of_sameStore
  by_cases hvar : x = l.var
  · intro s r hr hx
    rw [runLoop_eq] at hr
    split at hr
    · cases hr
      rfl
    · obtain ⟨inner, _, rfl⟩ := Option.map_eq_some_iff.1 hr
      refine absurd ?_ hx
      rw [hvar]
      exact List.mem_cons_self
  · refine governs_runLoop hraise (fun _ _ => rfl) ?_ ?_ hrun
    · refine fun value => governs_of_eq (fun _ => rfl) fun s _ => ?_
      show (s.store.set l.var value).get? x = s.store.get? x
      rw [Store.get?_set, if_neg hvar]
    · intro s t trace failure h hx
      show (t.store.remove l.var).get? x = s.store.get? x
      rw [Store.get?_remove, if_neg hvar]
      exact h hx

theorem keeps_runScript (run : String → Action ρ Unit)
    (hrun : ∀ line, (keeps x).Governs (run line)) (path : Path) :
    (keeps x).Governs (runScript settings run path) := by
  have hsame : ∀ {s t : Session ρ} {trace : Trace} {failure : Option Failure},
      t.store = s.store → (keeps x).Holds s trace failure t := keeps_of_sameStore
  refine keeps_basics.runScript (fun _ _ => hsame rfl) (fun h => h) fun line command => ?_
  refine governs_performLine (fun h => h) (fun s => hsame (atLine_store path line command s)) ?_
    hrun
  intro inner reports _
  obtain ⟨files, hsession⟩ := exists_closeLine_session settings path line command inner
  refine hsame ?_
  rw [hsession]

theorem keeps_execute (depth : Nat) (line : String) :
    (keeps x).Governs (execute settings depth line) :=
  governs_execute keeps_basics keeps_stored keeps_runLoop keeps_runScript depth line

end Law

/-! ## The frame of a run -/

/-- **A run keeps every variable that it does not bind**, whether it succeeds or fails; a pipeline,
a built-in command or a call of a module keeps the whole store. -/
theorem execute_store_frame {depth : Nat} {line : String} {s : Session ρ} {run : Run ρ Unit}
    (h : Action.execute settings depth line s = some run) :
    (∀ x, x ∉ run.trace.bound → run.session.store.get? x = s.store.get? x) ∧
      ((Command.ofLine s.files line).IsSimple → run.session.store = s.store) := by
  refine ⟨fun x => Law.keeps_execute depth line s run h, fun hsimple => ?_⟩
  cases depth with
  | zero => cases h
  | succ depth =>
    rw [Action.execute_eq] at h
    exact Law.sameStore_basics.runCommand _ hsimple s run h

/-- A loop in a script binds its own variable and another one, and the third one is kept. -/
theorem execute_store_frame_outer :
    ∃ run, Action.execute Sample.settings 5 "outer" Sample.session = some run ∧
      run.trace.bound = ["y", "x", "i"] ∧ "z" ∉ run.trace.bound ∧
      run.session.store.get? "z" = Sample.session.store.get? "z" := by
  have hbound : (Action.execute Sample.settings 5 "outer" Sample.session).map (·.trace.bound) =
      some ["y", "x", "i"] := by decide +kernel
  obtain ⟨run, hrun, hbound⟩ := Option.map_eq_some_iff.1 hbound
  have hz : "z" ∉ run.trace.bound := by
    rw [hbound]
    decide
  exact ⟨run, hrun, hbound, hz, (execute_store_frame hrun).1 "z" hz⟩

/-! ## The end of a loop -/

/-- **A loop leaves its variable unbound**, however it ended and whatever its body did.  If its
source is no range, that is the failure and nothing else happens. -/
theorem execute_loop {depth : Nat} {line : String} {s : Session ρ} {run : Run ρ Unit} {l : Loop}
    (hl : Command.ofLine s.files line = .loop l)
    (h : Action.execute settings depth line s = some run) :
    (∀ values, { l with source := s.store.expand l.source }.values = .ok values →
        run.session.store.get? l.var = none) ∧
      ∀ fault, { l with source := s.store.expand l.source }.values = .error fault →
        run.result = .error (.invalidRange fault.message) ∧ run.session = s ∧
          run.trace.calls = [] ∧ run.trace.output = "" ∧
          ∀ colors, run.trace.errors colors = "" := by
  cases depth with
  | zero => cases h
  | succ depth =>
    rw [Action.execute_eq, hl, Action.runCommand, Action.runLoop_eq] at h
    constructor
    · intro values hvalues
      rw [hvalues] at h
      obtain ⟨inner, _, rfl⟩ := Option.map_eq_some_iff.1 h
      show (inner.session.store.remove l.var).get? l.var = none
      rw [Store.get?_remove, if_pos rfl]
    · intro fault hfault
      rw [hfault] at h
      cases h
      exact ⟨rfl, rfl, rfl, rfl, fun _ => rfl⟩

/-- The body binds the variable of its loop again, and fails with the first value. -/
theorem execute_loop_aborted :
    ∃ run, Command.ofLine Sample.session.files "forloop 2 as $i do \x7b set i a b; boom $i \x7d" =
        .loop ⟨.counted, "2", "i", ["set i a b", "boom $i"]⟩ ∧
      Action.execute Sample.settings 3 "forloop 2 as $i do \x7b set i a b; boom $i \x7d"
        Sample.session = some run ∧
      run.trace.calls = [("boom", ["a", "b"])] ∧ run.session.store.get? "i" = none := by
  have hl : Command.ofLine Sample.session.files "forloop 2 as $i do \x7b set i a b; boom $i \x7d" =
      .loop ⟨.counted, "2", "i", ["set i a b", "boom $i"]⟩ := by decide +kernel
  have hcalls : (Action.execute Sample.settings 3
      "forloop 2 as $i do \x7b set i a b; boom $i \x7d" Sample.session).map (·.trace.calls) =
        some [("boom", ["a", "b"])] := by decide +kernel
  obtain ⟨run, hrun, hcalls⟩ := Option.map_eq_some_iff.1 hcalls
  have hvalues : (⟨.counted, Sample.session.store.expand "2", "i", ["set i a b", "boom $i"]⟩ :
      Loop).values = .ok ["0", "1"] := by rfl
  exact ⟨run, hl, hrun, hcalls, (execute_loop hl hrun).1 _ hvalues⟩

end JsonShell
