import JsonShell.Proofs.Checked.Access
import JsonShell.Proofs.Loop.Scan

/-!
# Scanning for a closing brace, checked

The scanner for the end of a body starts behind the brace of the header and counts the braces that
are opened after it.  Here it starts at that brace and counts it too, and a brace that is closed is
subtracted from those that are open without any guard against there being none.

That never fails.  The scanner is at the end when the last brace is closed, so there is always one
left to subtract from (`closing_eq`).  Steps lead through the text up to that end
(`Body.of_close?`), so every scanner that counts in this way passes over it
(`Nesting.after_of_steps`).
-/

set_option autoImplicit false

namespace JsonShell

namespace Checked

/-- What a scanner knows of the text before it. -/
structure Nesting where
  /-- How many braces are open. -/
  depth : Nat
  /-- Whether a quote is open. -/
  quoted : Bool
deriving DecidableEq, Repr

namespace Nesting

/-- Nothing is open. -/
def start : Nesting := ⟨0, false⟩

/-- What is known after one more character. -/
def next (n : Nesting) (c : Char) : Except Breach Nesting :=
  if c = '"' then .ok { n with quoted := !n.quoted }
  else if n.quoted then .ok n
  else if c = '{' then .ok { n with depth := n.depth + 1 }
  else if c = '}' then do return { n with depth := ← difference n.depth 1 }
  else .ok n

/-- What is known after more text. -/
def after (n : Nesting) (cs : List Char) : Except Breach Nesting :=
  cs.foldlM next n

end Nesting

/-- The offset of the brace that leaves none open, if there is one in the text that begins at
`offset`. -/
def closing (n : Nesting) (offset : Nat) : List Char → Except Breach (Option Nat)
  | [] => .ok none
  | c :: rest => do
    let m ← n.next c
    if c = '}' ∧ n.quoted = false ∧ m.depth = 0 then return some offset
    else closing m (offset + c.utf8Size) rest

variable {depth next last : Nat} {quoted quotedNext quotedLast : Bool} {c : Char}
  {cs : List Char}

/-! ## Characters -/

/-- A step closes no brace that is not open. -/
theorem Nesting.next_of_step (h : Body.Step true depth quoted c next quotedNext) :
    (⟨depth, quoted⟩ : Nesting).next c = .ok ⟨next, quotedNext⟩ := by
  cases h with
  | quote => rw [Nesting.next, if_pos rfl]
  | quoted _ hc => rw [Nesting.next, if_neg hc, if_pos rfl]
  | opened => rfl
  | closed =>
    have hone : difference (next + 1) 1 = .ok next := difference_eq_ok_iff.2 (Nat.add_comm next 1)
    rw [Nesting.next, if_neg (by decide), if_neg Bool.false_ne_true, if_neg (by decide), if_pos rfl,
      hone]
    rfl
  | separated => rfl
  | other _ hquote hopen hclose =>
    rw [Nesting.next, if_neg hquote, if_neg Bool.false_ne_true, if_neg hopen, if_neg hclose]

/-! ## Texts -/

theorem Nesting.after_of_steps (h : Body.Steps true depth quoted cs last quotedLast) :
    (⟨depth, quoted⟩ : Nesting).after cs = .ok ⟨last, quotedLast⟩ := by
  induction h with
  | nil => rfl
  | cons step _ ih =>
    rw [Nesting.after, List.foldlM_cons, Nesting.next_of_step step]
    exact ih

/-! ## The closing brace -/

theorem closing_of_step (h : Body.Step true depth quoted c next quotedNext) (offset : Nat)
    (cs : List Char) : closing ⟨depth + 1, quoted⟩ offset (c :: cs) =
      closing ⟨next + 1, quotedNext⟩ (offset + c.utf8Size) cs := by
  rw [closing, Nesting.next_of_step (h.inside true)]
  exact if_neg fun hlast => Nat.succ_ne_zero next hlast.2.2

/-- **The brace at which the last one is closed ends the body**, and on the way to it no brace is
closed that is not open. -/
theorem closing_eq (depth : Nat) (quoted : Bool) (offset : Nat) (cs : List Char) :
    closing ⟨depth + 1, quoted⟩ offset cs =
      .ok ((Body.close? depth quoted cs).map fun found =>
        offset + byteSize found.1) := by
  induction cs generalizing depth quoted offset with
  | nil => rfl
  | cons c rest ih =>
    rcases Body.exists_step depth quoted c with ⟨rfl, rfl, rfl⟩ | ⟨next, quotedNext, step⟩
    · rfl
    · rw [closing_of_step step, ih, step.close?_cons, Option.map_map]
      congr 2
      funext found
      rw [Function.comp_apply, byteSize_cons, Nat.add_assoc]

end Checked

end JsonShell
