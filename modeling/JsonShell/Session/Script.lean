import JsonShell.Text.Blank
import JsonShell.Text.Split

/-!
# Script files

A script is a text with a command in each line.  Blank lines and lines that start with a number sign
are passed over, but they count: a command is numbered by its line in the whole text, from 1 on.
-/

set_option autoImplicit false

namespace JsonShell.Script

/-- The line is a command and not blank or a comment. -/
def isCommand (line : String) : Bool :=
  line ≠ "" && line.toList.head? ≠ some '#'

/-- Lines with their numbers, counted from `first` on. -/
def numberFrom (first : Nat) : List String → List (Nat × String)
  | [] => []
  | line :: rest => (first, line) :: numberFrom (first + 1) rest

/-- The commands of a script and their line numbers. -/
def commands (text : String) : List (Nat × String) :=
  (numberFrom 1 ((Text.lines text).map Text.trim)).filter fun (_, line) => isCommand line

/-- The numbers count the lines from `first` on. -/
theorem mem_numberFrom {first n : Nat} {line : String} {lines : List String} :
    (n, line) ∈ numberFrom first lines ↔ first ≤ n ∧ lines[n - first]? = some line := by
  induction lines generalizing first with
  | nil => simp [numberFrom]
  | cons head rest ih =>
    rw [numberFrom, List.mem_cons, ih, Prod.mk.injEq]
    rcases Nat.lt_trichotomy n first with hlt | rfl | hgt
    · have hne : n ≠ first := by omega
      have hnle : ¬ first + 1 ≤ n := by omega
      have hnle' : ¬ first ≤ n := by omega
      simp [hne, hnle, hnle']
    · have hnle : ¬ n + 1 ≤ n := by omega
      simp [hnle, eq_comm]
    · have hne : n ≠ first := by omega
      have hle : first + 1 ≤ n := by omega
      have hle' : first ≤ n := by omega
      have hsub : n - first = n - (first + 1) + 1 := by omega
      rw [hsub, List.getElem?_cons_succ]
      simp [hne, hle, hle']

example : commands "# a\n b \n\n\t\nc" = [(2, "b"), (5, "c")] := by decide +kernel

end JsonShell.Script
