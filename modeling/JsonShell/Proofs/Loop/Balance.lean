import JsonShell.Proofs.Loop.Scan

/-!
# Commands of a body, by counting

`Body.IsCommand` speaks of the steps of a scanner.  Here the same is said without any scanning: look
at the characters outside of quotes (`Body.outside`) and count braces in its prefixes.  A text is a
command if its quotes are even in number, no prefix closes more braces than it opens, all braces are
closed in the end, and no semicolon comes when as many braces are closed as are opened.

The two agree (`Body.isCommand_iff`).  The induction is over the text with any number of braces open
at its start; `Body.balanced_cons_iff` is what one character does to the counts.
-/

set_option autoImplicit false

namespace JsonShell

namespace Body

/-- The characters outside of double quotes, without the quotes; `quoted` tells whether one is open
at the start. -/
def outside (quoted : Bool) : List Char → List Char
  | [] => []
  | c :: rest =>
    if c = '"' then outside (!quoted) rest
    else if quoted then outside quoted rest
    else c :: outside quoted rest

/-- A text without quotes, at whose start `depth` braces are open, and at whose end `last` are. -/
structure Balanced (depth : Nat) (text : List Char) (last : Nat) : Prop where
  count_eq : depth + text.count '{' = last + text.count '}'
  /-- No prefix closes more braces than are open. -/
  count_le : ∀ before, before <+: text → before.count '}' ≤ depth + before.count '{'
  /-- A semicolon stands inside of braces. -/
  separated : ∀ before, before ++ [';'] <+: text →
    before.count '}' ≠ depth + before.count '{'

/-- A text without blanks at its ends that is a single command, however deeply loops are nested in
it. -/
structure IsSingle (cs : List Char) : Prop where
  ne_nil : cs ≠ []
  trimmed : Text.trimChars cs = cs
  even_quotes : cs.count '"' % 2 = 0
  balanced : Balanced 0 (outside false cs) 0

variable {depth last : Nat} {quoted quotedLast : Bool} {c : Char} {text cs : List Char}

theorem balanced_nil_iff : Balanced depth [] last ↔ depth = last := by
  constructor
  · exact fun h => h.count_eq
  · rintro rfl
    refine ⟨rfl, fun before hbefore => ?_, fun before hbefore => ?_⟩
    · rw [List.prefix_nil.1 hbefore]
      exact Nat.zero_le _
    · exact absurd (List.prefix_nil.1 hbefore) (by simp)

/-- What the first character does to the number of open braces. -/
theorem balanced_cons_iff :
    Balanced depth (c :: text) last ↔
      ¬(c = ';' ∧ depth = 0) ∧
        ∃ next, depth + [c].count '{' = next + [c].count '}' ∧ Balanced next text last := by
  have hopened : ∀ before, (c :: before).count '{' = [c].count '{' + before.count '{' :=
    fun before => by rw [← List.singleton_append, List.count_append]
  have hclosed : ∀ before, (c :: before).count '}' = [c].count '}' + before.count '}' :=
    fun before => by rw [← List.singleton_append, List.count_append]
  constructor
  · intro h
    have hfirst := h.count_le [c] (List.prefix_append [c] text)
    refine ⟨?_, depth + [c].count '{' - [c].count '}', by omega, ?_, fun before hbefore => ?_,
      fun before hbefore => ?_⟩
    · rintro ⟨rfl, rfl⟩
      exact h.separated [] (List.prefix_append [';'] text) rfl
    · have heq := h.count_eq
      have hopen := hopened text
      have hclose := hclosed text
      omega
    · have hle := h.count_le (c :: before) (List.cons_prefix_cons.2 ⟨rfl, hbefore⟩)
      have hopen := hopened before
      have hclose := hclosed before
      omega
    · have hne := h.separated (c :: before) (List.cons_prefix_cons.2 ⟨rfl, hbefore⟩)
      have hopen := hopened before
      have hclose := hclosed before
      omega
  · rintro ⟨hfree, next, hnext, h⟩
    refine ⟨?_, fun before hbefore => ?_, fun before hbefore => ?_⟩
    · have heq := h.count_eq
      have hopen := hopened text
      have hclose := hclosed text
      omega
    · rcases List.prefix_cons_iff.1 hbefore with rfl | ⟨rest, rfl, hrest⟩
      · exact Nat.zero_le _
      · have hle := h.count_le rest hrest
        have hopen := hopened rest
        have hclose := hclosed rest
        omega
    · cases before with
      | nil =>
        obtain ⟨rfl, -⟩ := List.cons_prefix_cons.1 hbefore
        exact fun heq => hfree ⟨rfl, heq.symm⟩
      | cons d rest =>
        obtain ⟨rfl, hrest⟩ := List.cons_prefix_cons.1 hbefore
        have hne := h.separated rest hrest
        have hopen := hopened rest
        have hclose := hclosed rest
        omega

instance decidableBalanced : ∀ (depth : Nat) (text : List Char) (last : Nat),
    Decidable (Balanced depth text last)
  | depth, [], last => decidable_of_iff (depth = last) balanced_nil_iff.symm
  | depth, c :: text, last =>
    have next := decidableBalanced (depth + [c].count '{' - [c].count '}') text last
    decidable_of_iff
      (¬(c = ';' ∧ depth = 0) ∧ [c].count '}' ≤ depth + [c].count '{' ∧
        Balanced (depth + [c].count '{' - [c].count '}') text last) <| by
      rw [balanced_cons_iff]
      refine and_congr_right fun _ => ⟨?_, ?_⟩
      · rintro ⟨hle, h⟩
        exact ⟨_, by omega, h⟩
      · rintro ⟨next, hnext, h⟩
        obtain rfl : next = depth + [c].count '{' - [c].count '}' := by omega
        exact ⟨by omega, h⟩

/-! ## Steps and counts -/

theorem step_quote_iff {next : Nat} {quotedNext : Bool} :
    Step false depth quoted '"' next quotedNext ↔ next = depth ∧ quotedNext = !quoted := by
  constructor
  · intro h
    cases h with
    | quote => exact ⟨rfl, rfl⟩
    | quoted _ hc => exact absurd rfl hc
    | other _ hquote => exact absurd rfl hquote
  · rintro ⟨rfl, rfl⟩
    exact .quote _ _

theorem step_quoted_iff {next : Nat} {quotedNext : Bool} (hc : c ≠ '"') :
    Step false depth true c next quotedNext ↔ next = depth ∧ quotedNext = true := by
  constructor
  · intro h
    cases h with
    | quote => exact absurd rfl hc
    | quoted => exact ⟨rfl, rfl⟩
  · rintro ⟨rfl, rfl⟩
    exact .quoted _ hc

/-- Outside of quotes a step does what it does to the counts. -/
theorem step_outside_iff {next : Nat} {quotedNext : Bool} (hc : c ≠ '"') :
    Step false depth false c next quotedNext ↔
      quotedNext = false ∧ ¬(c = ';' ∧ depth = 0) ∧
        depth + [c].count '{' = next + [c].count '}' := by
  constructor
  · intro h
    cases h with
    | quote => exact absurd rfl hc
    | opened => exact ⟨rfl, by simp, by simp⟩
    | closed => exact ⟨rfl, by simp, by simp⟩
    | separated _ free =>
      have hdepth : depth ≠ 0 := Nat.ne_of_gt (free.resolve_left Bool.false_ne_true)
      exact ⟨rfl, fun h => hdepth h.2, by simp⟩
    | other _ _ hopen hclose hseparator =>
      exact ⟨rfl, fun h => hseparator h.1, by simp [hopen, hclose]⟩
  · rintro ⟨rfl, hfree, hcount⟩
    by_cases hopen : c = '{'
    · subst hopen
      obtain rfl : next = depth + 1 := by simpa using hcount.symm
      exact .opened depth
    by_cases hclose : c = '}'
    · subst hclose
      obtain rfl : depth = next + 1 := by simpa using hcount
      exact .closed next
    obtain rfl : next = depth := by simpa [hopen, hclose] using hcount.symm
    by_cases hseparator : c = ';'
    · subst hseparator
      exact .separated _ (.inr (Nat.pos_of_ne_zero fun h => hfree ⟨rfl, h⟩))
    · exact .other _ hc hopen hclose hseparator

theorem steps_cons_iff {many : Bool} :
    Steps many depth quoted (c :: cs) last quotedLast ↔
      ∃ next quotedNext, Step many depth quoted c next quotedNext ∧
        Steps many next quotedNext cs last quotedLast := by
  constructor
  · rintro (_ | ⟨step, steps⟩)
    exact ⟨_, _, step, steps⟩
  · rintro ⟨_, _, step, steps⟩
    exact .cons step steps

/-- Steps lead through a text just if its quotes are as many as they have to be and the braces
outside of them are balanced. -/
theorem steps_iff :
    Steps false depth quoted cs last quotedLast ↔
      (quoted.toNat + cs.count '"') % 2 = quotedLast.toNat ∧
        Balanced depth (outside quoted cs) last := by
  induction cs generalizing depth quoted with
  | nil =>
    rw [outside, balanced_nil_iff, List.count_nil, Nat.add_zero]
    constructor
    · rintro (_ | _)
      exact ⟨by cases quotedLast <;> rfl, rfl⟩
    · rintro ⟨hquoted, rfl⟩
      obtain rfl : quoted = quotedLast := by
        cases quoted <;> cases quotedLast <;> first | rfl | cases hquoted
      exact .nil _ _
  | cons c rest ih =>
    rw [steps_cons_iff]
    by_cases hc : c = '"'
    · subst hc
      have hparity : ∀ n, ((!quoted).toNat + n) % 2 = (quoted.toNat + (n + 1)) % 2 := by
        cases quoted <;> simp <;> omega
      simp only [step_quote_iff, and_assoc, exists_and_left, exists_eq_left, ih, outside, if_true,
        List.count_cons_self, hparity]
    · have hcount : (c :: rest).count '"' = rest.count '"' := List.count_cons_of_ne hc
      cases quoted with
      | true =>
        simp only [step_quoted_iff hc, and_assoc, exists_and_left, exists_eq_left, ih, outside,
          if_neg hc, if_true, hcount]
      | false =>
        rw [outside, if_neg hc, if_neg Bool.false_ne_true, balanced_cons_iff, hcount]
        simp only [step_outside_iff hc, and_assoc, exists_eq_left, ih]
        constructor
        · rintro ⟨next, hfree, hnext, hparity, h⟩
          exact ⟨hparity, hfree, next, hnext, h⟩
        · rintro ⟨hparity, hfree, next, hnext, h⟩
          exact ⟨next, hfree, hnext, hparity, h⟩

/-- **Commands of a body are told by counting.** -/
theorem isCommand_iff : IsCommand cs ↔ IsSingle cs := by
  have hsteps : Steps false 0 false cs 0 false ↔ _ := steps_iff
  rw [Bool.toNat_false, Nat.zero_add] at hsteps
  constructor
  · intro h
    obtain ⟨hquotes, hbalanced⟩ := hsteps.1 h.whole
    exact ⟨h.ne_nil, h.trimmed, hquotes, hbalanced⟩
  · exact fun h => ⟨h.ne_nil, h.trimmed, hsteps.2 ⟨h.even_quotes, h.balanced⟩⟩

instance (cs : List Char) : Decidable (IsSingle cs) :=
  decidable_of_iff
    (cs ≠ [] ∧ Text.trimChars cs = cs ∧ cs.count '"' % 2 = 0 ∧ Balanced 0 (outside false cs) 0)
    ⟨fun h => ⟨h.1, h.2.1, h.2.2.1, h.2.2.2⟩, fun h => ⟨h.1, h.2, h.3, h.4⟩⟩

end Body

end JsonShell
