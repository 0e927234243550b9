import JsonShell.Text.Width

/-!
# Widths add up at spaces

What a character takes depends on what follows it, so that the width of a text is not the sum of the
widths of its parts.  But no character acts across a space: a space takes one column whatever
follows it, and it is nothing to the character before it (`Width.step_space`).  So widths add up
where the second part begins with a space (`stringWidth_append`).

A character that joins one already counted takes a column back, and only where there is one to take
(`Width.least_measure`).  So no column is ever owed, and widths are what was counted
(`Width.measure_nonneg`).
-/

set_option autoImplicit false

namespace JsonShell

namespace Width

variable {c : Char} {cs rest : List Char} {n : Nat} {ranges : List (Nat × Nat)}

/-! ## Ranges -/

theorem exists_of_inRanges (h : inRanges n ranges = true) : ∃ r ∈ ranges, r.1 ≤ n ∧ n ≤ r.2 := by
  induction ranges with
  | nil => cases h
  | cons r ranges ih =>
    rw [inRanges] at h
    split at h
    · cases h
    · split at h
      · rename_i hmin hmax
        exact ⟨r, List.mem_cons_self, Nat.le_of_not_lt hmin, hmax⟩
      · obtain ⟨r', hr', hbounds⟩ := ih h
        exact ⟨r', List.mem_cons_of_mem r hr', hbounds⟩

/-- A character between the ranges of those without a column takes one. -/
theorem one_le_tableWidth {low high : Nat} (hlow : low ≤ c.toNat) (hhigh : c.toNat ≤ high)
    (hgap : ∀ z ∈ zeroRanges, z.2 < low ∨ high < z.1) : 1 ≤ tableWidth c := by
  have hzero : isZero c = false := by
    rw [Bool.eq_false_iff]
    intro hzero
    obtain ⟨z, hz, hzmin, hzmax⟩ := exists_of_inRanges hzero
    have := hgap z hz
    omega
  rw [tableWidth, hzero]
  split
  · exact Nat.le_add_left 1 2
  · simp only [Bool.false_eq_true, if_false]
    split <;> omega

/-- A Khmer letter that can be written below another one takes a column by itself. -/
theorem one_le_tableWidth_of_isKhmerSubscript (h : isKhmerSubscript c = true) :
    1 ≤ tableWidth c := by
  obtain ⟨r, hr, hmin, hmax⟩ := exists_of_inRanges h
  have hletters : 0x1780 ≤ r.1 ∧ r.2 ≤ 0x17AF := by
    clear hmin hmax
    revert r
    decide
  have hgap : ∀ z ∈ zeroRanges, z.2 < 0x1780 ∨ 0x17AF < z.1 := by decide +kernel
  exact one_le_tableWidth (Nat.le_trans hletters.1 hmin) (Nat.le_trans hmax hletters.2) hgap

/-! ## No column is owed -/

/-- The columns that a text takes at least when it starts so.  They are those that the character
before it can take back. -/
def Opening.least : Opening → Int
  | .khmerSubscript | .joinedRegional _ | .tifinaghPair => 1
  | _ => 0

theorem Opening.least_nonneg (o : Opening) : 0 ≤ o.least := by
  cases o <;> simp [least]

/-- Where nothing is to be taken back, nothing is owed. -/
theorem Opening.least_le {o : Opening} {w : Int} (ho : o.least = 0) (hw : 0 ≤ w) (next : Opening) :
    o.least ≤ next.least + w := by
  rw [ho]
  exact Int.add_nonneg next.least_nonneg hw

theorem Opening.least_withoutSelector (o : Opening) : o.withoutSelector.least ≤ o.least := by
  rw [withoutSelector]
  split
  · exact Int.le_refl _
  · exact o.least_nonneg

theorem Opening.least_after (o : Opening) (s : Selector) : (o.after s).opening.least ≤ o.least := by
  rw [after]
  split
  · exact Int.le_refl _
  · exact o.least_nonneg

theorem least_openingOf (c : Char) : (openingOf c).least ≤ tableWidth c := by
  by_cases hkhmer : isKhmerSubscript c = true
  · have hwidth := one_le_tableWidth_of_isKhmerSubscript hkhmer
    have hone : (openingOf c).least ≤ 1 := by
      cases openingOf c <;> simp [Opening.least]
    omega
  · have hnone : (openingOf c).least = 0 := by
      rw [openingOf, if_neg hkhmer]
      repeat' split
      all_goals rfl
    omega

theorem least_joinedStep {w : Int} {o : Opening} (h : joinedStep? c = some (w, o)) :
    o.least ≤ w := by
  rw [joinedStep?] at h
  repeat' split at h
  all_goals cases h <;> decide

theorem least_tagStep {letters digits : Nat} {closed : Bool} {w : Int} {o : Opening}
    (h : tagStep? c letters digits closed = some (w, o)) : o.least ≤ w := by
  rw [tagStep?] at h
  repeat' split at h
  all_goals cases h <;> simp [Opening.least]

/-- A character takes back no more than the text after it has to give, and it leaves as much as the
character before it can take. -/
theorem least_actedStep {w : Int} {next o : Opening} (h : actedStep? c next = some (w, o)) :
    o.least ≤ next.least + w := by
  have hmore : o.least ≤ w → o.least ≤ next.least + w := fun hleast =>
    Int.le_trans hleast (Int.le_add_of_nonneg_left next.least_nonneg)
  cases next with
  | joined => exact hmore (least_joinedStep h)
  | joinedTagLetters n => exact hmore (least_tagStep h)
  | joinedTagDigits n => exact hmore (least_tagStep h)
  | _ =>
    rw [actedStep?] at h
    repeat' split at h
    all_goals cases h <;> simp [Opening.least]

theorem least_openingStep (c : Char) (next : Opening) :
    (openingStep c next).2.opening.least ≤ next.least + (openingStep c next).1 := by
  have hnext := next.least_nonneg
  rw [openingStep]
  split
  · repeat' split
    all_goals exact Opening.least_le rfl (by decide) next
  · split
    · simpa using next.least_after .emoji
    · simpa using next.least_after .text
    · simpa using next.least_after .wide
    · cases hacted : actedStep? c next with
      | some here => exact least_actedStep hacted
      | none =>
        have hplain := least_openingOf c
        show (openingOf c).least ≤ next.least + tableWidth c
        omega

theorem least_step (c : Char) (next : Following) :
    (step c next).2.opening.least ≤ next.opening.least + (step c next).1 := by
  have hwithout : (openingStep c next.opening.withoutSelector).2.opening.least ≤
      next.opening.least + (openingStep c next.opening.withoutSelector).1 :=
    Int.le_trans (least_openingStep c next.opening.withoutSelector)
      (Int.add_le_add_right next.opening.least_withoutSelector _)
  rw [step]
  split
  · split
    · split <;> exact Opening.least_le rfl (by decide) next.opening
    · exact hwithout
  · split
    · exact Opening.least_le rfl (by decide) next.opening
    · exact hwithout
  · split
    · exact Opening.least_le rfl (by decide) next.opening
    · exact hwithout
  · exact least_openingStep c next.opening

/-- **A text has as many columns as the character before it can take back.** -/
theorem least_measure (cs : List Char) : (measure cs).2.opening.least ≤ (measure cs).1 := by
  induction cs with
  | nil => exact Int.le_refl 0
  | cons c rest ih =>
    have hstep := least_step c (measure rest).2
    show (step c (measure rest).2).2.opening.least ≤ (step c (measure rest).2).1 + (measure rest).1
    omega

/-- **No text takes less than no column.** -/
theorem measure_nonneg (cs : List Char) : 0 ≤ (measure cs).1 :=
  Int.le_trans (Opening.least_nonneg _) (least_measure cs)

/-! ## Spaces -/

/-- The text is nothing to the character before it. -/
def IsNeutral (cs : List Char) : Prop :=
  (measure cs).2 = ⟨.other, none⟩

/-- **A space takes one column and parts what is before it from what is after it.** -/
theorem step_space (next : Following) : step ' ' next = (1, ⟨.other, none⟩) := by
  have hemoji : hasEmojiStyle ' ' = false := by decide +kernel
  have htext : hasTextStyle ' ' = false := by decide +kernel
  have hmark : isQuotationMark ' ' = false := by decide
  have hopening : ∀ o, openingStep ' ' o = (1, ⟨.other, none⟩) := by
    intro o
    rw [openingStep, if_pos (by decide), if_neg (by decide), if_neg (by simp)]
  rw [step, hemoji, htext, hmark]
  split <;> simp [hopening]

theorem measure_space (rest : List Char) :
    measure (' ' :: rest) = (1 + (measure rest).1, ⟨.other, none⟩) := by
  rw [measure, step_space]

theorem isNeutral_space (rest : List Char) : IsNeutral (' ' :: rest) := by
  rw [IsNeutral, measure_space]

/-- Before a text that is nothing to it a text is measured by itself. -/
theorem measure_append (h : IsNeutral rest) (cs : List Char) :
    measure (cs ++ rest) = ((measure cs).1 + (measure rest).1, (measure cs).2) := by
  induction cs with
  | nil =>
    rw [List.nil_append, measure, Int.zero_add, ← h]
  | cons c cs ih => rw [List.cons_append, measure, measure, ih, Int.add_assoc]

/-- Characters that take one column and are nothing to one another, as the lines of a box are. -/
def IsPlain (c : Char) : Prop :=
  step c ⟨.other, none⟩ = (1, ⟨.other, none⟩)

instance (c : Char) : Decidable (IsPlain c) :=
  inferInstanceAs (Decidable (_ = _))

theorem measure_of_isPlain (h : ∀ c ∈ cs, IsPlain c) :
    measure cs = ((cs.length : Int), ⟨.other, none⟩) := by
  induction cs with
  | nil => rfl
  | cons c cs ih =>
    obtain ⟨hc, hcs⟩ := List.forall_mem_cons.1 h
    rw [measure, ih hcs, hc, List.length_cons, Int.natCast_add, Int.add_comm]
    rfl

end Width

/-! ## Widths of texts -/

theorem charsWidth_append {cs rest : List Char} (h : Width.IsNeutral rest) :
    charsWidth (cs ++ rest) = charsWidth cs + charsWidth rest := by
  have hcs := Width.measure_nonneg cs
  have hrest := Width.measure_nonneg rest
  rw [charsWidth, charsWidth, charsWidth, Width.measure_append h cs]
  exact Int.toNat_add hcs hrest

theorem charsWidth_of_isPlain {cs : List Char} (h : ∀ c ∈ cs, Width.IsPlain c) :
    charsWidth cs = cs.length := by
  rw [charsWidth, Width.measure_of_isPlain h]
  exact Int.toNat_natCast _

end JsonShell
