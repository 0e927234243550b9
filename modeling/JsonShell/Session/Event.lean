import JsonShell.Diagnostic
import JsonShell.Failure
import JsonShell.FailureLog
import JsonShell.Record

/-!
# What happens during a run

Running a line leaves a trace: the events of the run in the order in which they happened.  What is
written for the user is read off the trace, and so is everything else that a run does beside
changing the session, such as the calls of modules, the variables that are bound and the lines of
scripts that are being run.
-/

set_option autoImplicit false

namespace JsonShell

/-- Something that happens during a run. -/
inductive Event where
  /-- A module is called and answers. -/
  | called (name : String) (args : List String) (answer : Except Failure (Option Record))
  /-- A module writes a line beside its answer. -/
  | chatter (line : String)
  /-- The output takes a text. -/
  | printed (text : String)
  /-- A diagnostic is written to the errors. -/
  | reported (d : Diagnostic)
  /-- An entry is made in the failure log. -/
  | logged (entry : LogEntry)
  /-- An assignment binds a variable. -/
  | assigned (name value : String)
  /-- A loop over a variable starts. -/
  | looped (var : String)
  /-- The text of a script is read, and its commands are going to be run. -/
  | opened (path : Path) (text : String)
  /-- A line of a script starts. -/
  | lineStarted (path : Path) (line : Nat) (command : String)
  /-- The line of a script that started last ends. -/
  | lineEnded
  /-- A command fails for a cause of its own, and not because a call or another line failed. -/
  | raised (cause : Failure)

/-- The events of a run, in order. -/
abbrev Trace := List Event

/-- A call of a module and its answer. -/
structure AnsweredCall where
  name : String
  args : List String
  answer : Except Failure (Option Record)

namespace Event

/-- The text that an event adds to the output. -/
def output : Event → String
  | .printed text => text
  | _ => ""

/-- The text that an event adds to the errors. -/
def errors (colors : Bool) : Event → String
  | .reported d => d.render colors
  | _ => ""

/-- The call of an event that is one. -/
def call? : Event → Option (String × List String)
  | .called name args _ => some (name, args)
  | _ => none

/-- The call and the answer of an event that is a call. -/
def answered? : Event → Option AnsweredCall
  | .called name args answer => some ⟨name, args, answer⟩
  | _ => none

/-- The text of an event that prints one. -/
def printed? : Event → Option String
  | .printed text => some text
  | _ => none

/-- The diagnostic of an event that reports one. -/
def diagnostic? : Event → Option Diagnostic
  | .reported d => some d
  | _ => none

/-- The log entry of an event that makes one. -/
def logEntry? : Event → Option LogEntry
  | .logged entry => some entry
  | _ => none

/-- The failure that starts with an event: a call that fails, or a command for a cause of its
own. -/
def cause? : Event → Option Failure
  | .called _ _ (.error failure) => some failure
  | .raised failure => some failure
  | _ => none

/-- The variable that an event binds. -/
def bound? : Event → Option String
  | .assigned name _ => some name
  | .looped var => some var
  | _ => none

end Event

namespace Trace

/-- All that is written to the output. -/
def output (t : Trace) : String :=
  String.join (t.map Event.output)

/-- All diagnostics as they are written. -/
def errors (colors : Bool) (t : Trace) : String :=
  String.join (t.map (Event.errors colors))

/-- All that is written to the errors when the lines of modules go there too. -/
def allErrors (colors : Bool) (t : Trace) : String :=
  String.join (t.map fun e => match e with
    | .chatter line => line ++ "\n"
    | e => e.errors colors)

/-- The calls of modules, with their arguments. -/
def calls (t : Trace) : List (String × List String) :=
  t.filterMap Event.call?

/-- The calls of modules, with their arguments and answers. -/
def answered (t : Trace) : List AnsweredCall :=
  t.filterMap Event.answered?

/-- The texts that are written to the output, one by one. -/
def printed (t : Trace) : List String :=
  t.filterMap Event.printed?

/-- The diagnostics. -/
def diagnostics (t : Trace) : List Diagnostic :=
  t.filterMap Event.diagnostic?

/-- The entries made in the failure log. -/
def logEntries (t : Trace) : List LogEntry :=
  t.filterMap Event.logEntry?

/-- The failures that start in a run, as opposed to those that are passed on. -/
def causes (t : Trace) : List Failure :=
  t.filterMap Event.cause?

/-- The variables bound by assignments and loops. -/
def bound (t : Trace) : List String :=
  t.filterMap Event.bound?

/-! ## Traces one after the other -/

theorem calls_append (t rest : Trace) : calls (t ++ rest) = t.calls ++ rest.calls :=
  List.filterMap_append ..

theorem answered_append (t rest : Trace) : answered (t ++ rest) = t.answered ++ rest.answered :=
  List.filterMap_append ..

theorem printed_append (t rest : Trace) : printed (t ++ rest) = t.printed ++ rest.printed :=
  List.filterMap_append ..

theorem diagnostics_append (t rest : Trace) :
    diagnostics (t ++ rest) = t.diagnostics ++ rest.diagnostics :=
  List.filterMap_append ..

theorem logEntries_append (t rest : Trace) :
    logEntries (t ++ rest) = t.logEntries ++ rest.logEntries :=
  List.filterMap_append ..

theorem causes_append (t rest : Trace) : causes (t ++ rest) = t.causes ++ rest.causes :=
  List.filterMap_append ..

theorem bound_append (t rest : Trace) : bound (t ++ rest) = t.bound ++ rest.bound :=
  List.filterMap_append ..

end Trace

end JsonShell
