/-!
# Signals

A signal has a number and a name.  Most of them end the process that they are sent to, unless it
takes care of them itself.
-/

set_option autoImplicit false

namespace JsonShell.Interpreter

/-- The names of the signals from 1 on; one of them goes by its number. -/
def signalNames : List String :=
  ["HUP", "INT", "QUIT", "ILL", "TRAP", "ABRT", "BUS", "FPE", "KILL", "USR1", "SEGV", "USR2",
    "PIPE", "ALRM", "TERM", "16", "CHLD", "CONT", "STOP", "TSTP", "TTIN", "TTOU", "URG",
    "XCPU", "XFSZ", "VTALRM", "PROF", "WINCH", "IO", "PWR", "SYS"]

namespace Signal

/-- The signal of a closed pipe. -/
def pipe : Nat := 13

/-- The signal of a stack that is too deep. -/
def segmentation : Nat := 11

/-- The signal of too much work. -/
def overtime : Nat := 24

/-- The signal that `kill` sends if it is not told which. -/
def termination : Nat := 15

/-- The name of a signal, without its usual beginning. -/
def name? (number : Nat) : Option String :=
  if number = 0 then some "EXIT" else signalNames[number - 1]?

/-- The number of a name, which may be written in small letters. -/
def number? (name : String) : Option Nat :=
  let upper := String.ofList (name.toList.map Char.toUpper)
  if upper = "EXIT" then some 0 else (signalNames.idxOf? upper).map (· + 1)

/-- The greatest number of a signal. -/
def last : Nat := 64

/-- A text that stands for a signal: a number or a name. -/
def read? (text : String) : Option Nat :=
  match text.toNat? with
  | some n => if text.toList.all Char.isDigit && n ≤ last then some n else none
  | none => number? text

/-- The signals that do nothing to a process that does not ask for them. -/
def isHarmless (number : Nat) : Bool :=
  [17, 18, 23, 28].contains number

/-- The signals that stop a process until it is told to go on. -/
def isStopping (number : Nat) : Bool :=
  [19, 20, 21, 22].contains number

/-- The signals that a process cannot take care of. -/
def isInevitable (number : Nat) : Bool :=
  number = 9 || number = 19

example : number? "term" = some termination ∧ name? 26 = some "VTALRM" := by decide +kernel

end Signal

end JsonShell.Interpreter
