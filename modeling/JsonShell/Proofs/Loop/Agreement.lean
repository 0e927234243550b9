import JsonShell.Proofs.Checked.Scan
import JsonShell.Proofs.Loop.Balance
import JsonShell.Proofs.Loop.Shape

/-!
# Agreement of the two scanners

The scanner for the end of a body finds a brace, and the one for semicolons then goes through the
text up to that brace again, with a count of open braces and a quote flag of its own.  It does not
count below zero: where there is nothing to subtract from, it goes on with zero.  Here it is written
with a difference that must exist, as a machine that takes one character after the other (`Cutter`).

Before each character of a body the first scanner has one open brace more than the second, and
nothing else is different (`Agree`).  So the second never has to stop at zero, and when the first
one is at the end, nothing is open in the second.

A text of many commands is then cut into single ones: steps lead through each piece
(`Steps.exists_pieces`), also when the blanks around it are taken off (`Steps.trim`).
-/

set_option autoImplicit false

namespace JsonShell

namespace Checked

/-! ## Definitions -/

/-- What the scanner for semicolons has made of the text before it. -/
structure Cutter where
  /-- The pieces that a semicolon has ended. -/
  ended : List (List Char)
  /-- The text after the last of these semicolons. -/
  current : List Char
  nesting : Nesting
deriving DecidableEq, Repr

namespace Cutter

def start : Cutter := ⟨[], [], .start⟩

/-- What one more character does. -/
def next (s : Cutter) (c : Char) : Except Breach Cutter := do
  let nesting ← s.nesting.next c
  if c = ';' ∧ s.nesting = .start then return ⟨s.ended ++ [s.current], [], nesting⟩
  else return ⟨s.ended, s.current ++ [c], nesting⟩

/-- What the scanner has made of a text in the end. -/
def run (cs : List Char) : Except Breach Cutter :=
  cs.foldlM next start

end Cutter

/-- Both scanners go through a body in the same way. -/
structure Agree (body after : List Char) : Prop where
  /-- The scanner for the closing brace finds the one that ends the body, and up to there closes no
  brace that is not open. -/
  closing_eq : closing .start 0 ('{' :: (body ++ '}' :: after)) = .ok (some (1 + byteSize body))
  /-- The scanner for semicolons closes no brace that is not open, and in the end none is open. -/
  run_eq : ∃ s, Cutter.run body = .ok s ∧ s.nesting = .start ∧
    s.ended ++ [s.current] = Body.pieces 0 false body
  /-- The first scanner has one open brace more than the second, wherever they are. -/
  nesting_eq : ∀ before, before <+: body → ∃ s, Cutter.run before = .ok s ∧
    Nesting.start.after ('{' :: before) = .ok ⟨s.nesting.depth + 1, s.nesting.quoted⟩

end Checked

/-! ## Steps -/

namespace Body

variable {many : Bool} {depth next last : Nat} {quoted quotedNext quotedLast : Bool} {c : Char}
  {cs ds body command : List Char}

theorem Steps.append_inv (h : Steps many depth quoted (cs ++ ds) last quotedLast) :
    ∃ next quotedNext, Steps many depth quoted cs next quotedNext ∧
      Steps many next quotedNext ds last quotedLast := by
  induction cs generalizing depth quoted with
  | nil => exact ⟨depth, quoted, .nil depth quoted, h⟩
  | cons c rest ih =>
    obtain ⟨next, quotedNext, step, steps⟩ := steps_cons_iff.1 h
    obtain ⟨middle, quotedMiddle, hfront, hback⟩ := ih steps
    exact ⟨middle, quotedMiddle, .cons step hfront, hback⟩

/-- A step in a text of many commands is one in a single command, unless it ends the command. -/
theorem Step.single (h : Step true depth quoted c next quotedNext)
    (hfree : ¬(c = ';' ∧ depth = 0 ∧ quoted = false)) :
    Step false depth quoted c next quotedNext := by
  cases h with
  | quote => exact .quote _ _
  | quoted _ hc => exact .quoted _ hc
  | opened => exact .opened _
  | closed => exact .closed _
  | separated =>
    exact .separated _ (.inr (Nat.pos_of_ne_zero fun hdepth => hfree ⟨rfl, hdepth, rfl⟩))
  | other _ hquote hopen hclose hseparator => exact .other _ hquote hopen hclose hseparator

/-- A semicolon that ends a command opens and closes nothing. -/
theorem Step.of_separator (h : Step true 0 false ';' next quotedNext) :
    next = 0 ∧ quotedNext = false := by
  cases h with
  | separated => exact ⟨rfl, rfl⟩
  | other _ _ _ _ hseparator => exact absurd rfl hseparator

theorem pieces_separator (cs : List Char) : pieces 0 false (';' :: cs) = [] :: pieces 0 false cs :=
  rfl

/-- **A text of many commands is cut into single ones.**  What is open at its start is closed in the
first. -/
theorem Steps.exists_pieces (h : Steps true depth quoted cs 0 false) :
    ∃ first rest, pieces depth quoted cs = first :: rest ∧
      Steps false depth quoted first 0 false ∧
      ∀ piece ∈ rest, Steps false 0 false piece 0 false := by
  induction cs generalizing depth quoted with
  | nil =>
    cases h
    exact ⟨[], [], rfl, .nil 0 false, nofun⟩
  | cons c cs ih =>
    obtain ⟨next, quotedNext, step, steps⟩ := steps_cons_iff.1 h
    obtain ⟨first, rest, hpieces, hfirst, hrest⟩ := ih steps
    by_cases hseparator : c = ';' ∧ depth = 0 ∧ quoted = false
    · obtain ⟨rfl, rfl, rfl⟩ := hseparator
      obtain ⟨rfl, rfl⟩ := step.of_separator
      refine ⟨[], first :: rest, ?_, .nil 0 false, List.forall_mem_cons.2 ⟨hfirst, hrest⟩⟩
      rw [pieces_separator, hpieces]
    · have hsingle := step.single hseparator
      refine ⟨c :: first, rest, ?_, .cons hsingle hfirst, hrest⟩
      rw [hsingle.pieces_cons, hpieces]
      rfl

/-! ## Blanks -/

theorem Step.of_isBlank (h : Step many depth quoted c next quotedNext) (hc : isBlank c = true) :
    next = depth ∧ quotedNext = quoted := by
  cases h with
  | quote => cases hc
  | quoted => exact ⟨rfl, rfl⟩
  | opened => cases hc
  | closed => cases hc
  | separated => exact ⟨rfl, rfl⟩
  | other => exact ⟨rfl, rfl⟩

theorem Steps.of_isBlank (h : Steps many depth quoted cs last quotedLast)
    (hcs : ∀ c ∈ cs, isBlank c = true) : last = depth ∧ quotedLast = quoted := by
  induction h with
  | nil => exact ⟨rfl, rfl⟩
  | cons step _ ih =>
    obtain ⟨rfl, rfl⟩ := step.of_isBlank (hcs _ List.mem_cons_self)
    exact ih fun c hc => hcs c (List.mem_cons_of_mem _ hc)

/-- Blanks around a text open and close nothing. -/
theorem Steps.trim (h : Steps many depth quoted cs last quotedLast) :
    Steps many depth quoted (Text.trimChars cs) last quotedLast := by
  obtain ⟨before, after, hbefore, hafter, heq⟩ := Text.exists_eq_trimChars cs
  rw [heq] at h
  obtain ⟨_, _, hfront, hback⟩ := h.append_inv
  obtain ⟨_, _, hblank, hcs⟩ := hfront.append_inv
  obtain ⟨rfl, rfl⟩ := hblank.of_isBlank hbefore
  obtain ⟨rfl, rfl⟩ := hback.of_isBlank hafter
  exact hcs

/-- **Every command of a body is a single one.** -/
theorem isCommand_of_mem (h : Steps true 0 false body 0 false) (hmem : command ∈ commands body) :
    IsCommand command := by
  obtain ⟨first, rest, hpieces, hfirst, hrest⟩ := h.exists_pieces
  obtain ⟨hmap, hne⟩ := List.mem_filter.1 hmem
  obtain ⟨piece, hpiece, rfl⟩ := List.mem_map.1 hmap
  have hwhole : Steps false 0 false piece 0 false := by
    rw [hpieces] at hpiece
    rcases List.mem_cons.1 hpiece with rfl | hpiece
    · exact hfirst
    · exact hrest piece hpiece
  exact ⟨by simpa using hne, Text.trimChars_trimChars piece, hwhole.trim⟩

end Body

/-! ## Scanners -/

namespace Checked

variable {depth next last : Nat} {quoted quotedNext quotedLast : Bool} {c : Char}
  {cs body after : List Char}

namespace Cutter

variable {s : Cutter}

/-- All pieces of a text, where the rest of it has these. -/
def followedBy (s : Cutter) (pieces : List (List Char)) : List (List Char) :=
  s.ended ++ s.current.foldr Text.consFirst pieces

theorem next_of_step (hs : s.nesting = ⟨depth, quoted⟩)
    (h : Body.Step true depth quoted c next quotedNext) (cs : List Char) :
    ∃ t, s.next c = .ok t ∧ t.nesting = ⟨next, quotedNext⟩ ∧
      t.followedBy (Body.pieces next quotedNext cs) =
        s.followedBy (Body.pieces depth quoted (c :: cs)) := by
  have hnesting : s.nesting.next c = .ok ⟨next, quotedNext⟩ := by
    rw [hs, Nesting.next_of_step h]
  by_cases hseparator : c = ';' ∧ depth = 0 ∧ quoted = false
  · obtain ⟨rfl, rfl, rfl⟩ := hseparator
    obtain ⟨rfl, rfl⟩ := h.of_separator
    refine ⟨⟨s.ended ++ [s.current], [], .start⟩, ?_, rfl, ?_⟩
    · rw [Cutter.next, hnesting, ok_bind, if_pos ⟨rfl, hs⟩]
      rfl
    · rw [followedBy, followedBy, Body.pieces_separator, Text.foldr_consFirst, List.append_nil,
        List.append_assoc]
      rfl
  · have hsingle := h.single hseparator
    refine ⟨⟨s.ended, s.current ++ [c], ⟨next, quotedNext⟩⟩, ?_, rfl, ?_⟩
    · rw [Cutter.next, hnesting, ok_bind, if_neg]
      · rfl
      · rintro ⟨hc, hstart⟩
        obtain ⟨rfl, rfl⟩ := Nesting.mk.inj (hs.symm.trans hstart)
        exact hseparator ⟨hc, rfl, rfl⟩
    · rw [followedBy, followedBy, hsingle.pieces_cons, List.foldr_append]
      rfl

/-- A text that steps lead through is cut into its pieces. -/
theorem foldlM_next (h : Body.Steps true depth quoted cs last quotedLast)
    (hs : s.nesting = ⟨depth, quoted⟩) :
    ∃ t, cs.foldlM Cutter.next s = .ok t ∧ t.nesting = ⟨last, quotedLast⟩ ∧
      t.ended ++ [t.current] = s.followedBy (Body.pieces depth quoted cs) := by
  induction h generalizing s with
  | nil =>
    refine ⟨s, rfl, hs, ?_⟩
    rw [followedBy, Body.pieces, Text.foldr_consFirst, List.append_nil]
  | cons step _ ih =>
    obtain ⟨t, ht, hnesting, hpieces⟩ := next_of_step hs step _
    obtain ⟨u, hu, hlast, hend⟩ := ih hnesting
    refine ⟨u, ?_, hlast, hend.trans hpieces⟩
    rw [List.foldlM_cons, ht, ok_bind, hu]

end Cutter

/-- **The scanners agree on every body that the first one finds.** -/
theorem agree_of_close? (h : Body.close? 0 false cs = some (body, after)) : Agree body after := by
  obtain ⟨rfl, steps⟩ := Body.of_close? h
  refine ⟨?_, ?_, ?_⟩
  · have hclosing := closing_eq 0 false 1 (body ++ '}' :: after)
    rw [h] at hclosing
    exact hclosing
  · exact Cutter.foldlM_next steps rfl
  · rintro before ⟨rest, rfl⟩
    obtain ⟨depth, quoted, hbefore, -⟩ := steps.append_inv
    obtain ⟨s, hs, hnesting, -⟩ := Cutter.foldlM_next (s := .start) hbefore rfl
    refine ⟨s, hs, ?_⟩
    rw [hnesting]
    exact Nesting.after_of_steps (.cons (.opened 0) (hbefore.inside true))

end Checked

namespace Loop

variable {line : String} {l : Loop}

/-- **The scanners agree on the body of every loop.**  It is the text between two braces of the
line, from the one of the header to the one that closes it, and neither scanner ever closes a brace
that is not open.  So each command is a single one: not empty, without blanks around it, with an
even number of quotes, and outside of them with braces that are balanced and no semicolon that is
not in braces. -/
theorem parse?_agree (h : parse? line = some l) :
    ∃ kind parts front body after, header? line.toList = some (kind, parts) ∧
      line.toList = front ++ '{' :: parts.after ∧ parts.after = body ++ '}' :: after ∧
      Checked.Agree body after ∧ l.body = (Body.commands body).map String.ofList ∧
      ∀ command ∈ l.body, Body.IsSingle command.toList := by
  obtain ⟨kind, parts, body, after, hheader, hclose, -, hbody⟩ := parse?_parts h
  obtain ⟨front, hfront⟩ := exists_of_header? hheader
  obtain ⟨hafter, steps⟩ := Body.of_close? hclose
  refine ⟨kind, parts, front, body, after, hheader, hfront, hafter,
    Checked.agree_of_close? hclose, hbody, ?_⟩
  rw [hbody]
  intro command hmem
  obtain ⟨cs, hcs, rfl⟩ := List.mem_map.1 hmem
  rw [String.toList_ofList]
  exact Body.isCommand_iff.1 (Body.isCommand_of_mem steps hcs)

/-- A loop in a loop, with braces and semicolons in quotes. -/
theorem parse?_agree_nested :
    let inner := "foreach y as $z do \x7b a; b \"\x7b;\" \x7d"
    let line := "foreach [a \"\x7d\" b] as $x do \x7b " ++ inner ++ ";; c \x7d "
    let l : Loop := ⟨.listed, "[a \"\x7d\" b]", "x", [inner, "c"]⟩
    parse? line = some l ∧ ∀ command ∈ l.body, Body.IsSingle command.toList := by
  intro inner line l
  have h : parse? line = some l := by decide +kernel
  obtain ⟨_, _, _, _, _, _, _, _, _, _, hsingle⟩ := parse?_agree h
  exact ⟨h, hsingle⟩

end Loop

end JsonShell
