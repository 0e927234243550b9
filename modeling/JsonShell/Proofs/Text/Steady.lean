import JsonShell.Proofs.Text.Width

/-!
# Texts that are no wider than their characters

The width of a text is not the sum of what its characters take alone.  Most characters that act
together take fewer columns than alone, but two kinds make a text wider than its characters: a
control character has no width of its own and takes a column in a text, and a variation selector can
make the character before it wide.  The other characters are *steady*, and a text of them takes no
more columns than its characters do alone (`charsWidth_le_ownWidth`).

This does not hold of every step of the count.  The second regional indicator before an emoji that
is joined to them takes a column back, and the third one takes three; so a text may have saved up to
two columns that the next character spends (`Width.Opening.saved`).
-/

set_option autoImplicit false

namespace JsonShell

namespace Width

variable {c : Char} {cs : List Char}

/-- The columns of a character alone; none if it has no width of its own. -/
def alone (c : Char) : Nat :=
  (charWidth? c).getD 0

/-- The columns that the characters of a text take alone. -/
def ownWidth : List Char → Nat
  | [] => 0
  | c :: cs => alone c + ownWidth cs

/-- A character that makes no text wider than its characters: no control character, and no selector
of emoji or of wide quotation marks. -/
def IsSteady (c : Char) : Prop :=
  isControl c = false ∧ c.toNat ≠ 0xFE0F ∧ c.toNat ≠ 0xFE01

instance (c : Char) : Decidable (IsSteady c) :=
  inferInstanceAs (Decidable (_ ∧ _))

theorem isSteady_of_all {cs : List Char} (h : cs.all (fun c => decide (IsSteady c)) = true) :
    ∀ c ∈ cs, IsSteady c := fun c hc =>
  of_decide_eq_true (List.all_eq_true.1 h c hc)

theorem alone_of_isSteady (h : IsSteady c) : alone c = tableWidth c := by
  rw [alone, charWidth?, h.1]
  rfl

theorem ownWidth_cons (c : Char) (cs : List Char) : ownWidth (c :: cs) = alone c + ownWidth cs :=
  rfl

/-! ## Saved columns -/

/-- The columns that a text which starts so takes fewer than its characters do alone, at least. -/
def Opening.saved : Opening → Int
  | .joinedFlag => 2
  | _ => 0

theorem Opening.saved_nonneg (o : Opening) : 0 ≤ o.saved := by
  cases o <;> simp [saved]

theorem Opening.saved_withoutSelector (o : Opening) : o.withoutSelector.saved ≤ o.saved := by
  rw [withoutSelector]
  split
  · exact Int.le_refl _
  · exact o.saved_nonneg

theorem Opening.saved_after (o : Opening) (s : Selector) : (o.after s).opening.saved ≤ o.saved := by
  rw [after]
  split
  · exact Int.le_refl _
  · exact o.saved_nonneg

/-- A character that saves nothing may take what it takes alone. -/
theorem Opening.saved_le {o : Opening} {w : Int} (ho : o.saved = 0) (hw : w ≤ tableWidth c)
    (next : Opening) : w + o.saved ≤ tableWidth c + next.saved := by
  have hnext := next.saved_nonneg
  omega

theorem saved_openingOf (c : Char) : (openingOf c).saved = 0 := by
  rw [openingOf]
  repeat' split
  all_goals rfl

theorem one_le_tableWidth_of_isRegional (h : isRegional c = true) : 1 ≤ tableWidth c := by
  simp only [isRegional, Bool.and_eq_true, decide_eq_true_eq] at h
  have hgap : ∀ z ∈ zeroRanges, z.2 < 0x1F1E6 ∨ 0x1F1FF < z.1 := by decide +kernel
  exact one_le_tableWidth h.1 h.2 hgap

theorem one_le_tableWidth_of_le (h : c.toNat ≤ 0xA0) : 1 ≤ tableWidth c := by
  have hgap : ∀ z ∈ zeroRanges, z.2 < 0 ∨ 0xA0 < z.1 := by decide +kernel
  exact one_le_tableWidth (Nat.zero_le _) h hgap

/-- An emoji that can be shown as a text takes a column: it lies in one of two blocks in which all
characters do. -/
theorem one_le_tableWidth_of_hasTextStyle (h : hasTextStyle c = true) : 1 ≤ tableWidth c := by
  obtain ⟨hstyle, -⟩ := Bool.and_eq_true_iff.1 h
  obtain ⟨r, hr, hmin, hmax⟩ := exists_of_inRanges hstyle
  have hblocks : ∀ r ∈ emojiStyleRanges,
      0x2300 ≤ r.1 ∧ r.2 ≤ 0x2BFF ∨ 0x1F000 ≤ r.1 ∧ r.2 ≤ 0x1F6FF := by decide +kernel
  rcases hblocks r hr with ⟨hlow, hhigh⟩ | ⟨hlow, hhigh⟩
  · have hgap : ∀ z ∈ zeroRanges, z.2 < 0x2300 ∨ 0x2BFF < z.1 := by decide +kernel
    exact one_le_tableWidth (Nat.le_trans hlow hmin) (Nat.le_trans hmax hhigh) hgap
  · have hgap : ∀ z ∈ zeroRanges, z.2 < 0x1F000 ∨ 0x1F6FF < z.1 := by decide +kernel
    exact one_le_tableWidth (Nat.le_trans hlow hmin) (Nat.le_trans hmax hhigh) hgap

theorem tableWidth_tifinaghJoiner (h : c.toNat = 0x2D7F) : tableWidth c = 1 := by
  have hwidth : tableWidth (Char.ofNat 0x2D7F) = 1 := by decide +kernel
  rwa [← h, Char.ofNat_toNat] at hwidth

theorem tableWidth_kiratSignAi (h : c.toNat = 0x16D68) : tableWidth c = 1 := by
  have hwidth : tableWidth (Char.ofNat 0x16D68) = 1 := by decide +kernel
  rwa [← h, Char.ofNat_toNat] at hwidth

/-! ## One step -/

theorem saved_joinedStep {w : Int} {o : Opening} (h : joinedStep? c = some (w, o)) :
    w + o.saved ≤ tableWidth c := by
  rw [joinedStep?] at h
  split at h
  · cases h
    simp [Opening.saved]
  · split at h
    · rename_i hregional
      have := one_le_tableWidth_of_isRegional hregional
      cases h
      simp only [Opening.saved]
      omega
    · repeat' split at h
      all_goals cases h <;> simp [Opening.saved]

theorem saved_tagStep {letters digits : Nat} {closed : Bool} {w : Int} {o : Opening}
    (h : tagStep? c letters digits closed = some (w, o)) : w + o.saved ≤ tableWidth c := by
  rw [tagStep?] at h
  repeat' split at h
  all_goals cases h <;> simp [Opening.saved]

/-- A character that the text after it acts on takes no more than it does alone and the text has
saved. -/
theorem saved_actedStep {w : Int} {next o : Opening} (h : actedStep? c next = some (w, o)) :
    w + o.saved ≤ tableWidth c + next.saved := by
  have hmore : w + o.saved ≤ tableWidth c → w + o.saved ≤ tableWidth c + next.saved := fun hle =>
    Int.le_trans hle (Int.le_add_of_nonneg_right next.saved_nonneg)
  cases next with
  | joined => exact hmore (saved_joinedStep h)
  | joinedTagLetters n => exact hmore (saved_tagStep h)
  | joinedTagDigits n => exact hmore (saved_tagStep h)
  | regional _ | joinedRegional _ | joinedFlag =>
    rw [actedStep?] at h
    split at h
    · rename_i hregional
      have := one_le_tableWidth_of_isRegional hregional
      cases h
      simp only [Opening.saved]
      omega
    · split at h <;> cases h
      simp only [Opening.saved]
      omega
  | tifinaghConsonant joined =>
    rw [actedStep?] at h
    repeat' split at h
    all_goals cases h
    · simp [Opening.saved]
    · simp [Opening.saved]
    · rename_i hjoiner
      simp [Opening.saved, tableWidth_tifinaghJoiner hjoiner]
    · simp [Opening.saved]
  | kiratSignE =>
    rw [actedStep?] at h
    split at h <;> cases h
    · simp [Opening.saved]
    · simp [Opening.saved]
    · simp [Opening.saved]
    · rename_i hsign
      simp [Opening.saved, tableWidth_kiratSignAi hsign]
  | _ =>
    rw [actedStep?] at h
    repeat' split at h
    all_goals cases h <;> simp [Opening.saved]

theorem saved_openingStep (c : Char) (next : Opening) :
    (openingStep c next).1 + (openingStep c next).2.opening.saved ≤ tableWidth c + next.saved := by
  have hnone : ∀ s, 0 + (next.after s).opening.saved ≤ tableWidth c + next.saved := fun s => by
    have := next.saved_after s
    omega
  rw [openingStep]
  split
  · rename_i hsmall
    have hone : (1 : Int) ≤ tableWidth c := Int.ofNat_le.2 (one_le_tableWidth_of_le hsmall)
    repeat' split
    · exact Opening.saved_le rfl hone next
    · exact Opening.saved_le rfl (Int.natCast_nonneg _) next
    · exact Opening.saved_le rfl hone next
  · split
    · exact hnone .emoji
    · exact hnone .text
    · exact hnone .wide
    · cases hacted : actedStep? c next with
      | some here => exact saved_actedStep hacted
      | none => exact Opening.saved_le (saved_openingOf c) (Int.le_refl _) next

/-- Nothing but a selector of text comes before what follows. -/
def Following.IsSteady (f : Following) : Prop :=
  f.selector = none ∨ f.selector = some .text

/-- A character takes no more than it does alone and the text after it has saved. -/
theorem saved_step {next : Following} (hnext : next.IsSteady) (c : Char) :
    (step c next).1 + (step c next).2.opening.saved ≤ tableWidth c + next.opening.saved := by
  have hwithout : (openingStep c next.opening.withoutSelector).1 +
      (openingStep c next.opening.withoutSelector).2.opening.saved ≤
      tableWidth c + next.opening.saved :=
    Int.le_trans (saved_openingStep c next.opening.withoutSelector)
      (Int.add_le_add_left next.opening.saved_withoutSelector _)
  rcases hnext with hselector | hselector
  · rw [step, hselector]
    exact saved_openingStep c next.opening
  · rw [step, hselector]
    dsimp only
    split
    · rename_i hstyle
      have hone : (1 : Int) ≤ tableWidth c :=
        Int.ofNat_le.2 (one_le_tableWidth_of_hasTextStyle hstyle)
      exact Opening.saved_le rfl hone next.opening
    · exact hwithout

theorem isSteady_openingStep (h : IsSteady c) (next : Opening) :
    (openingStep c next).2.IsSteady := by
  have hafter : ∀ s, (next.after s).selector = some s := fun s => by
    rw [Opening.after]
    split <;> rfl
  rw [openingStep]
  split
  · repeat' split
    all_goals exact .inl rfl
  · split
    · rename_i hemoji
      exact absurd hemoji h.2.1
    · exact .inr (hafter .text)
    · rename_i hwide
      exact absurd hwide h.2.2
    · exact .inl rfl

theorem isSteady_step {next : Following} (h : IsSteady c) : (step c next).2.IsSteady := by
  rw [step]
  repeat' split
  all_goals first
    | exact .inl rfl
    | exact isSteady_openingStep h _

/-! ## Texts -/

theorem saved_measure (h : ∀ c ∈ cs, IsSteady c) : (measure cs).2.IsSteady ∧
    (measure cs).1 + (measure cs).2.opening.saved ≤ ownWidth cs := by
  induction cs with
  | nil => exact ⟨.inl rfl, Int.le_refl 0⟩
  | cons c rest ih =>
    obtain ⟨hc, hrest⟩ := List.forall_mem_cons.1 h
    obtain ⟨hsteady, hsaved⟩ := ih hrest
    have hstep := saved_step hsteady c
    have hown : ownWidth (c :: rest) = tableWidth c + ownWidth rest := by
      rw [ownWidth_cons, alone_of_isSteady hc]
    refine ⟨isSteady_step hc, ?_⟩
    show (step c (measure rest).2).1 + (measure rest).1 +
      (step c (measure rest).2).2.opening.saved ≤ (ownWidth (c :: rest) : Int)
    omega

end Width

/-- **A text of steady characters takes no more columns than they do alone.** -/
theorem charsWidth_le_ownWidth {cs : List Char} (h : ∀ c ∈ cs, Width.IsSteady c) :
    charsWidth cs ≤ Width.ownWidth cs := by
  have hmeasure := (Width.saved_measure h).2
  have hsaved := (Width.measure cs).2.opening.saved_nonneg
  rw [charsWidth]
  omega

end JsonShell
