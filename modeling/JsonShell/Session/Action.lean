import JsonShell.History
import JsonShell.Module.Runner
import JsonShell.Render
import JsonShell.Session.Event
import JsonShell.Session.Output
import JsonShell.Variable.Store

/-!
# Sessions and actions

A session is what lasts from line to line: the variables, the history, the modules, the files, the
output, and the script line that is being run, if any.  An *action* takes a session to a run: the
session afterwards, the trace, and a result or the failure that ended it.  Actions are put together
with `bind`, so that a failure ends everything up to the `attempt` around it while the session and
the trace so far are kept; the laws of a monad hold.

A line may run other lines without end.  An action whose depth is used up gives no run at all.
-/

set_option autoImplicit false

namespace JsonShell

/-- What a session is told at its start and keeps. -/
structure Settings (ρ : Type) where
  runner : Runner ρ
  colors : Bool
  /-- The lines of scripts are shown before they are run. -/
  verbose : Bool
  /-- The file of the failure log. -/
  log : Option Path
  /-- The time that is written into the log. -/
  time : String

/-- What lasts from line to line. -/
structure Session (ρ : Type) where
  modules : ρ
  store : Store
  history : History
  files : FileTree
  output : Output
  /-- The script and the number of its line that is being run. -/
  place : Option (Path × Nat)

/-- What an action came to. -/
structure Run (ρ α : Type) where
  session : Session ρ
  trace : Trace
  result : Except Failure α

/-- Something to do in a session. -/
def Action (ρ α : Type) : Type := Session ρ → Option (Run ρ α)

namespace Action

variable {ρ α β γ : Type}

/-- Does nothing. -/
def pure (a : α) : Action ρ α :=
  fun s => some ⟨s, [], .ok a⟩

/-- One action and, unless it fails, another. -/
def bind (x : Action ρ α) (f : α → Action ρ β) : Action ρ β :=
  fun s =>
    match x s with
    | none => none
    | some ⟨s, trace, .error failure⟩ => some ⟨s, trace, .error failure⟩
    | some ⟨s, trace, .ok a⟩ =>
      match f a s with
      | none => none
      | some run => some { run with trace := trace ++ run.trace }

instance : Monad (Action ρ) where
  pure := pure
  bind := bind

/-- Doing nothing afterwards makes no difference. -/
theorem bind_pure (x : Action ρ α) : bind x pure = x := by
  funext s
  rw [bind]
  rcases x s with _ | ⟨s, trace, _ | a⟩
  · rfl
  · rfl
  · simp [pure]

/-- Doing nothing before makes no difference. -/
theorem pure_bind (a : α) (f : α → Action ρ β) : bind (pure a) f = f a := by
  funext s
  rw [bind, pure]
  cases h : f a s <;> simp [h]

/-- Actions one after the other can be grouped in any way. -/
theorem bind_assoc (x : Action ρ α) (f : α → Action ρ β) (g : β → Action ρ γ) :
    bind (bind x f) g = bind x fun a => bind (f a) g := by
  funext s
  simp only [bind]
  rcases x s with _ | ⟨s, trace, _ | a⟩
  · rfl
  · rfl
  · dsimp only
    rcases f a s with _ | ⟨t, trace', _ | b⟩
    · rfl
    · rfl
    · dsimp only
      cases g b t with
      | none => rfl
      | some run => simp only [List.append_assoc]

instance : LawfulMonad (Action ρ) :=
  LawfulMonad.mk' (Action ρ) bind_pure pure_bind bind_assoc

/-! ## Basic actions -/

/-- Passes a failure on. -/
def fail (failure : Failure) : Action ρ α :=
  fun s => some ⟨s, [], .error failure⟩

/-- Gives a result or fails. -/
def ofExcept : Except Failure α → Action ρ α
  | .ok a => pure a
  | .error failure => fail failure

/-- The outcome of an action, which may be its failure. -/
def attempt (x : Action ρ α) : Action ρ (Except Failure α) :=
  fun s => (x s).map fun run => ⟨run.session, run.trace, .ok run.result⟩

/-- No run: the depth is used up. -/
def exhausted : Action ρ α :=
  fun _ => none

/-- The session. -/
def session : Action ρ (Session ρ) :=
  fun s => some ⟨s, [], .ok s⟩

/-- Changes the session. -/
def change (f : Session ρ → Session ρ) : Action ρ Unit :=
  fun s => some ⟨f s, [], .ok ()⟩

/-- Adds an event to the trace. -/
def emit (e : Event) : Action ρ Unit :=
  fun s => some ⟨s, [e], .ok ()⟩

/-- Fails for a cause of its own. -/
def raise (cause : Failure) : Action ρ α :=
  fun s => some ⟨s, [.raised cause], .error cause⟩

/-- Offers a text to the output and gives its refusal, if there is one. -/
def offer (text : String) : Action ρ (Option Refusal) :=
  fun s =>
    some ⟨{ s with output := s.output.after text }, [.printed (s.output.taken text)],
      .ok (s.output.refusal? text)⟩

/-- Writes a text to the output.  If it is refused, that is a failure made of the fault. -/
def write (failure : FileFault → Failure) (text : String) : Action ρ Unit := do
  match ← offer text with
  | none => pure ()
  | some refusal => raise (failure refusal.fault)

/-- Prints a text, as everything but a built-in command does. -/
def print (text : String) : Action ρ Unit :=
  write .io text

/-- Shows a record. -/
def showRecord (settings : Settings ρ) (r : Record) : Action ρ Unit :=
  print (r.render settings.colors)

/-- Reports a diagnostic.  Whether it can be written makes no difference. -/
def report (d : Diagnostic) : Action ρ Unit :=
  emit (.reported d)

/-- Makes an entry in the failure log, if there is one. -/
def log (settings : Settings ρ) (entry : LogEntry) : Action ρ Unit :=
  match settings.log with
  | none => pure ()
  | some path => do
    change fun s => { s with files := s.files.log path settings.time entry }
    emit (.logged entry)

/-- Binds a variable. -/
def setVariable (name value : String) : Action ρ Unit :=
  change fun s => { s with store := s.store.set name value }

/-- Unbinds a variable. -/
def removeVariable (name : String) : Action ρ Unit :=
  change fun s => { s with store := s.store.remove name }

/-- Records a line in the history. -/
def remember (line : String) : Action ρ Unit :=
  change fun s =>
    let (history, files) := s.history.add s.files line
    { s with history := history, files := files }

/-- Says which line of which script is being run. -/
def setPlace (place : Option (Path × Nat)) : Action ρ Unit :=
  change fun s => { s with place := place }

end Action

end JsonShell
