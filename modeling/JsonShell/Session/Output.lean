import JsonShell.File.Fault

/-!
# The output of a session

What a session writes goes to an output that is not part of it.  The output may refuse a text, and
it may have taken some characters of the text by then.  Its answers may depend on everything that it
was offered before, and nothing else is known about them.  An output *works* if it refuses nothing.
-/

set_option autoImplicit false

namespace JsonShell

/-- Why and where an output stopped taking a text. -/
structure Refusal where
  /-- How many characters of the text were taken. -/
  taken : Nat
  fault : FileFault
deriving DecidableEq, Repr

/-- The characters of the text that were taken. -/
def Refusal.part (refusal : Refusal) (text : String) : String :=
  String.ofList (text.toList.take refusal.taken)

/-- What results are written to. -/
structure Output where
  /-- The texts that were offered so far, in order. -/
  offered : List String
  /-- The answer to a text that is offered after others. -/
  answer : List String → String → Option Refusal

namespace Output

/-- A new output that takes everything. -/
def working : Output :=
  ⟨[], fun _ _ => none⟩

/-- The refusal of a text that is offered now, if it is refused.  The empty text is none. -/
def refusal? (o : Output) (text : String) : Option Refusal :=
  if text = "" then none else o.answer o.offered text

/-- What is taken of a text. -/
def taken (o : Output) (text : String) : String :=
  match o.refusal? text with
  | none => text
  | some refusal => refusal.part text

/-- The output after a text was offered. -/
def after (o : Output) (text : String) : Output :=
  { o with offered := o.offered ++ [text] }

/-- No text is refused, whatever was offered before. -/
def Works (o : Output) : Prop :=
  ∀ offered text, o.answer offered text = none

theorem Works.refusal?_eq_none {o : Output} (h : o.Works) (text : String) :
    o.refusal? text = none := by
  rw [refusal?, h, ite_self]

/-- What is offered changes nothing about the answers to come. -/
theorem Works.after {o : Output} (h : o.Works) (text : String) : (o.after text).Works :=
  h

theorem works_working : working.Works :=
  fun _ _ => rfl

example : (⟨[], fun _ _ => some ⟨2, .notFound⟩⟩ : Output).taken "abc" = "ab" := by decide

end Output

end JsonShell
