import JsonShell.Decimal.Literal
import JsonShell.Proofs.Decimal.Nearest
import JsonShell.Proofs.Text.Numeral

/-!
# Integers as decimal literals

The decimal text of an integer is a literal with no fraction and no exponent, so all its digits are
read, and the number they make is rounded once (`Decimal.finite?_toString`).
-/

set_option autoImplicit false

namespace JsonShell.Decimal

/-- Digits are read as everywhere else. -/
theorem digitsValue_toDigits (n : Nat) : digitsValue (Nat.toDigits 10 n) = n := by
  have hfold : digitsValue (Nat.toDigits 10 n) = Nat.ofDigitChars 10 (Nat.toDigits 10 n) 0 := by
    rw [Nat.ofDigitChars_eq_foldl]
    exact congrArg (fun f => (Nat.toDigits 10 n).foldl f 0)
      (funext fun value => funext fun c => by rw [Nat.mul_comm]; rfl)
  rw [hfold, Nat.ofDigitChars_ten_toDigits]

section Digits

variable {cs : List Char}

theorem readSign_of_digits (h : ∀ c ∈ cs, c.isDigit) : readSign cs = (false, cs) := by
  unfold readSign
  split
  · exact absurd (h '-' List.mem_cons_self) (by decide)
  · exact absurd (h '+' List.mem_cons_self) (by decide)
  · rfl

/-- After the sign there is nothing but digits. -/
theorem readParts_of_digits {text : List Char} {negative : Bool}
    (hsign : readSign text = (negative, cs)) (hne : cs ≠ []) (h : ∀ c ∈ cs, c.isDigit) :
    readParts text = some ⟨negative, cs, [], 0⟩ := by
  have hwhole : cs.takeWhile Char.isDigit = cs := by
    simpa only [List.append_nil, List.takeWhile_nil] using
      @List.takeWhile_append_of_pos _ _ cs [] h
  have hrest : cs.dropWhile Char.isDigit = [] := by
    simpa only [List.append_nil, List.dropWhile_nil] using
      @List.dropWhile_append_of_pos _ _ cs [] h
  rw [readParts, hsign]
  dsimp only
  rw [hwhole, hrest, List.isEmpty_eq_false_iff.2 hne]
  rfl

end Digits

/-- The sign of an integer and its digits. -/
theorem readParts_toString (n : Int) :
    readParts (toString n).toList =
      some ⟨decide (n < 0), Nat.toDigits 10 n.natAbs, [], 0⟩ := by
  have hdigits : ∀ c ∈ Nat.toDigits 10 n.natAbs, c.isDigit :=
    fun c hc => Numeral.isDigit_of_mem_toDigits hc
  rw [Numeral.toList_toString]
  split
  · rename_i hn
    rw [show n.toNat = n.natAbs by omega, decide_eq_false (by omega)]
    exact readParts_of_digits (readSign_of_digits hdigits) Nat.toDigits_ne_nil hdigits
  · rename_i hn
    rw [show (-n).toNat = n.natAbs by omega, decide_eq_true (by omega)]
    exact readParts_of_digits rfl Nat.toDigits_ne_nil hdigits

theorem digitCount_le {n : Nat} (h : n ≤ Nat.pow 2 63) : Binary64.digitCount n ≤ 20 := by
  rw [Binary64.digitCount, Nat.length_toDigits_le_iff (by decide) (by decide)]
  exact Nat.lt_of_le_of_lt h (by decide)

/-- Without a fraction and an exponent, the digits are all there is to round. -/
theorem ofDecimal_whole (negative : Bool) {n : Nat} (hn : n ≠ 0) (h : n ≤ Nat.pow 2 63) :
    Binary64.ofDecimal negative n 0 = Binary64.nearest negative n 1 := by
  have hcount := digitCount_le h
  rw [Binary64.ofDecimal, if_neg hn]
  dsimp only
  rw [if_neg (by omega), if_neg (by omega), if_pos (by decide)]
  exact congrArg (Binary64.nearest negative · 1) (Nat.mul_one n)

theorem natAbs_le_of_fits {n : Int} (h : Numeral.Fits n) : n.natAbs ≤ Nat.pow 2 63 := by
  obtain ⟨hmin, hmax⟩ := h
  have hword : Numeral.maxInteger + 1 = Nat.pow 2 63 := rfl
  omega

/-- **The text of an integer denotes the nearest integer of 53 bits.** -/
theorem finite?_toString {n : Int} (h : Numeral.Fits n) :
    ∃ x, finite? (toString n) = some x ∧ x.integer? = some (Binary64.nearestInt n) := by
  have hsize := natAbs_le_of_fits h
  have hread : finite? (toString n) = Binary64.ofDecimal (decide (n < 0)) n.natAbs 0 := by
    rw [finite?, readParts_toString, Option.bind_some, Parts.value?, List.append_nil,
      digitsValue_toDigits]
    rfl
  rw [hread]
  by_cases hn : n = 0
  · subst hn
    exact ⟨Binary64.zero false, by decide +kernel, by decide +kernel⟩
  · have habs : n.natAbs ≠ 0 := by omega
    have hlog : Nat.log2 n.natAbs < 64 :=
      (Nat.log2_lt habs).2 (Nat.lt_of_le_of_lt hsize (by decide))
    rw [ofDecimal_whole _ habs hsize]
    exact Binary64.exists_nearest_eq _ habs (by omega)

end JsonShell.Decimal
