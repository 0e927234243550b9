import JsonShell.Loop.Body

/-!
# Scanning bodies of loops

The end of a body and the semicolons between its commands are found by two scanners.  Both count the
open braces and know whether a quote is open.  `Step` says how a character changes this, as long as
it closes no brace that is not open; and unless the text may hold `many` commands, a semicolon has
to stand in braces or in quotes.

The scanner for the end passes over any text that steps lead through (`Steps.close?_append`), and
the one for semicolons over any text that is a single command (`Steps.pieces_append`).  Inside one
more brace semicolons are free, so what may stand in a body may also stand in a loop in it
(`Steps.inside`).
-/

set_option autoImplicit false

namespace JsonShell

namespace Body

/-- How a character changes the number of open braces and whether a quote is open. -/
inductive Step (many : Bool) : Nat → Bool → Char → Nat → Bool → Prop
  | quote (depth : Nat) (quoted : Bool) : Step many depth quoted '"' depth (!quoted)
  | quoted (depth : Nat) {c : Char} (hc : c ≠ '"') : Step many depth true c depth true
  | opened (depth : Nat) : Step many depth false '{' (depth + 1) false
  | closed (depth : Nat) : Step many (depth + 1) false '}' depth false
  | separated (depth : Nat) (free : many = true ∨ 0 < depth) : Step many depth false ';' depth false
  | other (depth : Nat) {c : Char} (hquote : c ≠ '"') (hopen : c ≠ '{') (hclose : c ≠ '}')
      (hseparator : c ≠ ';') : Step many depth false c depth false

/-- How a text changes the number of open braces and whether a quote is open. -/
inductive Steps (many : Bool) : Nat → Bool → List Char → Nat → Bool → Prop
  | nil (depth : Nat) (quoted : Bool) : Steps many depth quoted [] depth quoted
  | cons {depth next last : Nat} {quoted quotedNext quotedLast : Bool} {c : Char} {cs : List Char}
      (step : Step many depth quoted c next quotedNext)
      (steps : Steps many next quotedNext cs last quotedLast) :
      Steps many depth quoted (c :: cs) last quotedLast

/-- The text can be a command of a body: quotes and braces are closed in it, and no semicolon cuts
it. -/
structure IsCommand (cs : List Char) : Prop where
  ne_nil : cs ≠ []
  trimmed : Text.trimChars cs = cs
  whole : Steps false 0 false cs 0 false

variable {many : Bool} {depth next last : Nat} {quoted quotedNext quotedLast : Bool} {c : Char}
  {cs ds body after : List Char}

/-! ## Steps one after the other -/

theorem Steps.append (h : Steps many depth quoted cs next quotedNext)
    (hrest : Steps many next quotedNext ds last quotedLast) :
    Steps many depth quoted (cs ++ ds) last quotedLast := by
  induction h with
  | nil => exact hrest
  | cons step _ ih => exact .cons step (ih hrest)

theorem steps_singleton (h : Step many depth quoted c next quotedNext) :
    Steps many depth quoted [c] next quotedNext :=
  .cons h (.nil next quotedNext)

/-- A text without quotes, braces and semicolons changes nothing. -/
theorem steps_of_forall (depth : Nat) (h : ∀ c ∈ cs, c ≠ '"' ∧ c ≠ '{' ∧ c ≠ '}' ∧ c ≠ ';') :
    Steps many depth false cs depth false := by
  induction cs with
  | nil => exact .nil depth false
  | cons c rest ih =>
    obtain ⟨hquote, hopen, hclose, hseparator⟩ := h c List.mem_cons_self
    exact .cons (.other depth hquote hopen hclose hseparator)
      (ih fun d hd => h d (List.mem_cons_of_mem c hd))

theorem steps_of_all (depth : Nat)
    (h : cs.all fun c => decide (c ≠ '"' ∧ c ≠ '{' ∧ c ≠ '}' ∧ c ≠ ';')) :
    Steps many depth false cs depth false :=
  steps_of_forall depth fun c hc => of_decide_eq_true (List.all_eq_true.1 h c hc)

/-- Every character is a step, unless it closes a brace where none is open. -/
theorem exists_step (depth : Nat) (quoted : Bool) (c : Char) :
    (c = '}' ∧ depth = 0 ∧ quoted = false) ∨
      ∃ next quotedNext, Step true depth quoted c next quotedNext := by
  by_cases hquote : c = '"'
  · subst hquote
    exact .inr ⟨_, _, .quote depth quoted⟩
  cases quoted with
  | true => exact .inr ⟨_, _, .quoted depth hquote⟩
  | false =>
    by_cases hopen : c = '{'
    · subst hopen
      exact .inr ⟨_, _, .opened depth⟩
    by_cases hclose : c = '}'
    · subst hclose
      cases depth with
      | zero => exact .inl ⟨rfl, rfl, rfl⟩
      | succ depth => exact .inr ⟨_, _, .closed depth⟩
    by_cases hseparator : c = ';'
    · subst hseparator
      exact .inr ⟨_, _, .separated depth (.inl rfl)⟩
    · exact .inr ⟨_, _, .other depth hquote hopen hclose hseparator⟩

/-- Inside one more brace, semicolons are free. -/
theorem Step.inside (h : Step many depth quoted c next quotedNext) (many' : Bool) :
    Step many' (depth + 1) quoted c (next + 1) quotedNext := by
  cases h with
  | quote => exact .quote _ _
  | quoted _ hc => exact .quoted _ hc
  | opened => exact .opened _
  | closed => exact .closed _
  | separated => exact .separated _ (.inr (Nat.succ_pos _))
  | other _ hquote hopen hclose hseparator => exact .other _ hquote hopen hclose hseparator

theorem Steps.inside (h : Steps many depth quoted cs next quotedNext) (many' : Bool) :
    Steps many' (depth + 1) quoted cs (next + 1) quotedNext := by
  induction h with
  | nil => exact .nil _ _
  | cons step _ ih => exact .cons (step.inside many') ih

/-- A single command is a text of many. -/
theorem Steps.allowing (h : Steps false depth quoted cs next quotedNext) :
    Steps true depth quoted cs next quotedNext := by
  induction h with
  | nil => exact .nil _ _
  | cons step _ ih =>
    refine .cons ?_ ih
    cases step with
    | quote => exact .quote _ _
    | quoted _ hc => exact .quoted _ hc
    | opened => exact .opened _
    | closed => exact .closed _
    | separated => exact .separated _ (.inl rfl)
    | other _ hquote hopen hclose hseparator => exact .other _ hquote hopen hclose hseparator

/-! ## The scanners -/

theorem Step.close?_cons (h : Step many depth quoted c next quotedNext) (rest : List Char) :
    close? depth quoted (c :: rest) =
      (close? next quotedNext rest).map fun found => (c :: found.1, found.2) := by
  cases h with
  | quote => rw [close?.eq_def]; simp
  | quoted _ hc => rw [close?.eq_def]; simp [hc]
  | opened => rw [close?.eq_def]; simp
  | closed => rw [close?.eq_def]; simp
  | separated => rw [close?.eq_def]; simp
  | other _ hquote hopen hclose => rw [close?.eq_def]; simp [hquote, hopen, hclose]

/-- The scanner for the end of a body passes over a text that steps lead through. -/
theorem Steps.close?_append (h : Steps many depth quoted cs next quotedNext) (rest : List Char) :
    close? depth quoted (cs ++ rest) =
      (close? next quotedNext rest).map fun found => (cs ++ found.1, found.2) := by
  induction h with
  | nil => simp
  | cons step _ ih =>
    rw [List.cons_append, step.close?_cons, ih, Option.map_map]
    rfl

/-- The body goes up to a brace; steps lead through it, and in the end nothing is open. -/
theorem of_close? (h : close? depth quoted cs = some (body, after)) :
    cs = body ++ '}' :: after ∧ Steps true depth quoted body 0 false := by
  induction cs generalizing depth quoted body with
  | nil => cases h
  | cons c rest ih =>
    rcases exists_step depth quoted c with ⟨rfl, rfl, rfl⟩ | ⟨next, quotedNext, step⟩
    · cases h
      exact ⟨rfl, .nil 0 false⟩
    · rw [step.close?_cons] at h
      obtain ⟨⟨inner, after'⟩, hinner, heq⟩ := Option.map_eq_some_iff.1 h
      obtain ⟨rfl, rfl⟩ := Prod.mk.inj heq
      obtain ⟨rfl, steps⟩ := ih hinner
      exact ⟨rfl, .cons step steps⟩

theorem Step.pieces_cons (h : Step false depth quoted c next quotedNext) (rest : List Char) :
    pieces depth quoted (c :: rest) = Text.consFirst c (pieces next quotedNext rest) := by
  cases h with
  | quote => simp [pieces]
  | quoted _ hc => simp [pieces, hc]
  | opened => simp [pieces]
  | closed => simp [pieces]
  | separated _ free =>
    have hdepth : depth ≠ 0 := Nat.ne_of_gt (free.resolve_left Bool.false_ne_true)
    simp [pieces, hdepth]
  | other _ hquote hopen hclose hseparator => simp [pieces, hquote, hopen, hclose, hseparator]

/-- The scanner for semicolons keeps the text of a single command together. -/
theorem Steps.pieces_append (h : Steps false depth quoted cs next quotedNext) (rest : List Char) :
    pieces depth quoted (cs ++ rest) = cs.foldr Text.consFirst (pieces next quotedNext rest) := by
  induction h with
  | nil => rfl
  | cons step _ ih => rw [List.cons_append, step.pieces_cons, ih, List.foldr_cons]

end Body

end JsonShell
