import JsonShell.Decimal.Binary64

/-!
# Integers in 53 bits

The integers among the binary64 numbers are those with a significand of 53 bits
(`Binary64.IsShort`).  `Binary64.IsNearest` says what it is to round an integer to such a one: no
other is nearer, and of two that are equally near the one with the even significand is taken.

`Binary64.nearest` rounds like that (`Binary64.exists_nearest_eq`).  It rounds to a multiple of the
last place of the integer, the power of two that leaves 53 bits.  Not all numbers of 53 bits are
such multiples, but those that are none are smaller than all numbers with as many digits as the
integer, and so they are further away (`Binary64.multiple_or_lt`).
-/

set_option autoImplicit false

namespace JsonShell.Binary64

/-! ## Rounding to a multiple -/

/-- Which way a fraction is rounded. -/
theorem roundHalfEven_cases (num den : Nat) :
    (roundHalfEven num den = num / den ∧
      (2 * (num % den) < den ∨ 2 * (num % den) = den ∧ num / den % 2 = 0)) ∨
    (roundHalfEven num den = num / den + 1 ∧
      (den < 2 * (num % den) ∨ 2 * (num % den) = den ∧ num / den % 2 = 1)) := by
  rw [roundHalfEven]
  split
  · rename_i h
    simp only [Bool.or_eq_true, Bool.and_eq_true, decide_eq_true_eq, beq_iff_eq] at h
    exact .inr ⟨rfl, h⟩
  · rename_i h
    simp only [Bool.or_eq_true, Bool.and_eq_true, decide_eq_true_eq, beq_iff_eq] at h
    exact .inl ⟨rfl, by omega⟩

/-- No multiple is nearer than the one that is rounded to, and none is as near unless its factor is
even. -/
theorem roundHalfEven_nearest (num : Nat) {den : Nat} (hden : 0 < den) (k : Nat) :
    ((num : Int) - (roundHalfEven num den * den : Nat)).natAbs ≤
        ((num : Int) - (k * den : Nat)).natAbs ∧
      (((num : Int) - (k * den : Nat)).natAbs =
          ((num : Int) - (roundHalfEven num den * den : Nat)).natAbs →
        k = roundHalfEven num den ∨ roundHalfEven num den % 2 = 0) := by
  have hnum : num / den * den + num % den = num := Nat.div_add_mod' num den
  have hrest : num % den < den := Nat.mod_lt num hden
  have hnext : (num / den + 1) * den = num / den * den + den := Nat.succ_mul _ _
  have hbelow : k ≤ num / den → k * den ≤ num / den * den := Nat.mul_le_mul_right den
  have hfarBelow : k + 1 ≤ num / den → k * den + den ≤ num / den * den := fun h => by
    rw [← Nat.succ_mul]
    exact Nat.mul_le_mul_right den h
  have habove : num / den + 1 ≤ k → num / den * den + den ≤ k * den := fun h => by
    rw [← hnext]
    exact Nat.mul_le_mul_right den h
  have hfarAbove : num / den + 2 ≤ k → num / den * den + den + den ≤ k * den := fun h => by
    rw [← hnext, ← Nat.succ_mul]
    exact Nat.mul_le_mul_right den h
  rcases roundHalfEven_cases num den with ⟨hround, hway⟩ | ⟨hround, hway⟩
  · rw [hround]
    omega
  · rw [hround, hnext]
    omega

/-! ## Rounding a natural number -/

/-- The number has a significand of 53 bits. -/
def IsShort (n : Nat) : Prop :=
  ∃ m k, m < Nat.pow 2 53 ∧ n = m * Nat.pow 2 k

/-- The numbers of at most 53 bits, and the least one with 54. -/
theorem isShort_of_le {n : Nat} (h : n ≤ Nat.pow 2 53) : IsShort n := by
  rcases Nat.lt_or_eq_of_le h with hlt | rfl
  · exact ⟨n, 0, hlt, (Nat.mul_one n).symm⟩
  · exact ⟨1, 53, by decide, by decide⟩

theorem isShort_zero : IsShort 0 :=
  isShort_of_le (Nat.zero_le _)

/-- The last place of a number that is cut to 53 bits. -/
def lastPlace (n : Nat) : Nat :=
  Nat.pow 2 (Nat.log2 n - 52)

/-- The number rounded to 53 bits. -/
def rounded (n : Nat) : Nat :=
  roundHalfEven n (lastPlace n) * lastPlace n

section Natural

variable {n v : Nat}

/-- The least significand with too many bits, at one place and at the next one. -/
theorem pow_mul_pow_succ (k : Nat) :
    Nat.pow 2 53 * Nat.pow 2 k = Nat.pow 2 52 * Nat.pow 2 (k + 1) := by
  have hsucc : Nat.pow 2 (k + 1) = Nat.pow 2 k * 2 := rfl
  rw [hsucc, Nat.mul_comm (Nat.pow 2 k) 2, ← Nat.mul_assoc]

theorem lastPlace_pos (n : Nat) : 0 < lastPlace n :=
  Nat.pow_pos (by decide)

/-- A number with at most 53 bits is cut nowhere. -/
theorem lastPlace_eq_one (h : Nat.log2 n ≤ 52) : lastPlace n = 1 := by
  rw [lastPlace, Nat.sub_eq_zero_of_le h]

/-- A number with more than 52 bits has 53 of them from its last place on. -/
theorem le_of_lastPlace (h : 52 ≤ Nat.log2 n) : Nat.pow 2 52 * lastPlace n ≤ n := by
  have hn : n ≠ 0 := by
    rintro rfl
    exact absurd h (by decide)
  have hpow : Nat.pow 2 (52 + (Nat.log2 n - 52)) = Nat.pow 2 52 * lastPlace n := Nat.pow_add 2 _ _
  rw [← hpow, Nat.add_sub_cancel' h]
  exact Nat.log2_self_le hn

theorem lt_of_lastPlace (n : Nat) : n < Nat.pow 2 53 * lastPlace n := by
  have hpow : Nat.pow 2 (53 + (Nat.log2 n - 52)) = Nat.pow 2 53 * lastPlace n := Nat.pow_add 2 _ _
  have hlog : n < Nat.pow 2 (Nat.log2 n + 1) := Nat.lt_log2_self
  rw [← hpow]
  exact Nat.lt_of_lt_of_le hlog (Nat.pow_le_pow_right (by decide) (by omega))

/-- The numbers of 53 bits that are no multiples of the last place are all too small to be near. -/
theorem multiple_or_lt (n : Nat) (hv : IsShort v) :
    (∃ j, v = j * lastPlace n) ∨
      v < Nat.pow 2 52 * lastPlace n ∧ Nat.pow 2 52 * lastPlace n ≤ n := by
  obtain ⟨m, k, hm, rfl⟩ := hv
  rcases Nat.lt_or_ge k (Nat.log2 n - 52) with hk | hk
  · have hdouble : Nat.pow 2 (k + 1) ≤ lastPlace n := Nat.pow_le_pow_right Nat.two_pos hk
    have hpos : 0 < Nat.pow 2 k := Nat.pow_pos (by decide)
    have hbits : m * Nat.pow 2 k < Nat.pow 2 53 * Nat.pow 2 k :=
      Nat.mul_lt_mul_of_pos_right hm hpos
    rw [pow_mul_pow_succ k] at hbits
    exact .inr ⟨Nat.lt_of_lt_of_le hbits (Nat.mul_le_mul_left _ hdouble),
      le_of_lastPlace (by omega)⟩
  · have hpow : Nat.pow 2 (k - (Nat.log2 n - 52) + (Nat.log2 n - 52)) =
        Nat.pow 2 (k - (Nat.log2 n - 52)) * lastPlace n := Nat.pow_add 2 _ _
    rw [Nat.sub_add_cancel hk] at hpow
    exact .inl ⟨m * Nat.pow 2 (k - (Nat.log2 n - 52)), by rw [hpow, Nat.mul_assoc]⟩

/-- Rounding to the last place leaves 53 bits, or it makes the next power of two. -/
theorem le_roundHalfEven (h : 52 ≤ Nat.log2 n) :
    Nat.pow 2 52 ≤ roundHalfEven n (lastPlace n) := by
  have hquotient : Nat.pow 2 52 ≤ n / lastPlace n :=
    (Nat.le_div_iff_mul_le (lastPlace_pos n)).2 (le_of_lastPlace h)
  rcases roundHalfEven_cases n (lastPlace n) with ⟨hround, -⟩ | ⟨hround, -⟩ <;>
    rw [hround] <;> omega

theorem roundHalfEven_le (n : Nat) : roundHalfEven n (lastPlace n) ≤ Nat.pow 2 53 := by
  have hquotient : n / lastPlace n < Nat.pow 2 53 :=
    (Nat.div_lt_iff_lt_mul (lastPlace_pos n)).2 (lt_of_lastPlace n)
  rcases roundHalfEven_cases n (lastPlace n) with ⟨hround, -⟩ | ⟨hround, -⟩ <;>
    rw [hround] <;> omega

theorem roundHalfEven_one (n : Nat) : roundHalfEven n 1 = n := by
  rw [roundHalfEven, Nat.div_one, Nat.mod_one]
  rfl

/-- The significand of 53 bits that a number is rounded to, where it has so many. -/
theorem exists_rounded_eq (h : 52 ≤ Nat.log2 n) :
    ∃ m k, Nat.pow 2 52 ≤ m ∧ m < Nat.pow 2 53 ∧
      (roundHalfEven n (lastPlace n) % 2 = 0 → m % 2 = 0) ∧ rounded n = m * Nat.pow 2 k := by
  have hmin := le_roundHalfEven h
  rcases Nat.lt_or_eq_of_le (roundHalfEven_le n) with hlt | heq
  · exact ⟨_, _, hmin, hlt, id, rfl⟩
  · refine ⟨Nat.pow 2 52, Nat.log2 n - 52 + 1, by decide, by decide, fun _ => by decide, ?_⟩
    rw [rounded, heq]
    exact pow_mul_pow_succ _

/-- A number of at most 53 bits is not changed. -/
theorem rounded_eq_self (h : Nat.log2 n ≤ 52) : rounded n = n := by
  rw [rounded, lastPlace_eq_one h, roundHalfEven_one, Nat.mul_one]

theorem isShort_rounded (n : Nat) : IsShort (rounded n) := by
  rcases Nat.lt_or_ge (Nat.log2 n) 52 with h | h
  · have hlt := lt_of_lastPlace n
    rw [lastPlace_eq_one (Nat.le_of_lt h), Nat.mul_one] at hlt
    rw [rounded_eq_self (Nat.le_of_lt h)]
    exact isShort_of_le (Nat.le_of_lt hlt)
  · obtain ⟨m, k, -, hm, -, heq⟩ := exists_rounded_eq h
    exact ⟨m, k, hm, heq⟩

/-- No number of 53 bits is nearer than the one that is rounded to. -/
theorem rounded_nearest (n : Nat) (hv : IsShort v) :
    ((n : Int) - (rounded n : Nat)).natAbs ≤ ((n : Int) - (v : Nat)).natAbs ∧
      (((n : Int) - (v : Nat)).natAbs = ((n : Int) - (rounded n : Nat)).natAbs →
        v = rounded n ∨ roundHalfEven n (lastPlace n) % 2 = 0) := by
  have hnearest := roundHalfEven_nearest n (lastPlace_pos n)
  rcases multiple_or_lt n hv with ⟨j, rfl⟩ | ⟨hlt, hle⟩
  · obtain ⟨hdistance, htie⟩ := hnearest j
    exact ⟨hdistance, fun heq => (htie heq).imp_left fun h => by rw [h, rounded]⟩
  · -- The least multiple with as many bits as `n` lies between `v` and `n`.
    obtain ⟨hdistance, -⟩ := hnearest (Nat.pow 2 52)
    rw [rounded]
    omega

/-- Of two numbers of 53 bits that are equally near, the one with the even significand is taken. -/
theorem rounded_tie (n : Nat) (hv : IsShort v)
    (htie : ((n : Int) - (v : Nat)).natAbs = ((n : Int) - (rounded n : Nat)).natAbs) :
    v = rounded n ∨ ∃ m k, Nat.pow 2 52 ≤ m ∧ m < Nat.pow 2 53 ∧ m % 2 = 0 ∧
      rounded n = m * Nat.pow 2 k := by
  rcases Nat.lt_or_ge (Nat.log2 n) 52 with h | h
  · rw [rounded_eq_self (Nat.le_of_lt h)] at htie ⊢
    omega
  · refine ((rounded_nearest n hv).2 htie).imp_right fun heven => ?_
    obtain ⟨m, k, hmin, hmax, hparity, heq⟩ := exists_rounded_eq h
    exact ⟨m, k, hmin, hmax, hparity heven, heq⟩

end Natural

/-! ## Rounding an integer -/

/-- The integer `r` is `n` rounded to 53 bits: no integer with a significand of 53 bits is nearer,
and another one is as near only if the significand of `r` is even. -/
structure IsNearest (n r : Int) : Prop where
  short : IsShort r.natAbs
  le : ∀ v : Int, IsShort v.natAbs → (n - r).natAbs ≤ (n - v).natAbs
  even : ∀ v : Int, IsShort v.natAbs → (n - v).natAbs = (n - r).natAbs →
    v = r ∨ ∃ m k, Nat.pow 2 52 ≤ m ∧ m < Nat.pow 2 53 ∧ m % 2 = 0 ∧ r.natAbs = m * Nat.pow 2 k

/-- The integer with the given sign and size. -/
def signed (negative : Bool) (size : Nat) : Int :=
  if negative then -(size : Int) else size

/-- The integer rounded to 53 bits. -/
def nearestInt (n : Int) : Int :=
  signed (decide (n < 0)) (rounded n.natAbs)

theorem natAbs_signed (negative : Bool) (size : Nat) : (signed negative size).natAbs = size := by
  cases negative with
  | false => rfl
  | true => exact Int.natAbs_neg size

theorem natAbs_sub_nearestInt (n : Int) :
    (n - nearestInt n).natAbs = ((n.natAbs : Int) - (rounded n.natAbs : Nat)).natAbs := by
  rw [nearestInt, signed]
  split <;> simp only [decide_eq_true_eq] at * <;> omega

/-- **Rounding takes the nearest integer of 53 bits**, and of two the even one. -/
theorem isNearest_nearestInt (n : Int) : IsNearest n (nearestInt n) := by
  have hsize : (nearestInt n).natAbs = rounded n.natAbs := natAbs_signed _ _
  have hdistance := natAbs_sub_nearestInt n
  refine ⟨hsize ▸ isShort_rounded _, fun v hv => ?_, fun v hv htie => ?_⟩
  · -- An integer of the other sign is further away than its size is.
    have hle := (rounded_nearest n.natAbs hv).1
    omega
  · have hle := (rounded_nearest n.natAbs hv).1
    have hzero : (n - nearestInt n).natAbs ≤ n.natAbs := by
      have h := (rounded_nearest n.natAbs isShort_zero).1
      omega
    rcases rounded_tie n.natAbs hv (by omega) with heq | heven
    · exact .inl (by omega)
    · exact .inr (hsize ▸ heven)

/-- **Integers of 53 bits stay what they are.** -/
theorem nearestInt_eq_self {n : Int} (h : IsShort n.natAbs) : nearestInt n = n := by
  have hdistance := (isNearest_nearestInt n).le n h
  omega

/-! ## Integers as binary64 numbers -/

section Whole

variable {n : Nat}

theorem overPower_one_of_nonneg (n k : Nat) : overPower n 1 (k : Int) = (n, Nat.pow 2 k) := by
  rw [overPower, if_pos (Int.natCast_nonneg k), Int.toNat_natCast, Nat.one_mul]

theorem overPower_one_of_neg (n : Nat) {k : Nat} (hk : k ≠ 0) :
    overPower n 1 (-(k : Int)) = (n * Nat.pow 2 k, 1) := by
  rw [overPower, if_neg (by omega), Int.neg_neg, Int.toNat_natCast]

theorem binaryOrder_one (hn : n ≠ 0) : binaryOrder n 1 = Nat.log2 n := by
  have hone : ((Nat.log2 n : Int) - Nat.log2 1) = (Nat.log2 n : Int) := Int.sub_zero _
  rw [binaryOrder, hone, overPower_one_of_nonneg]
  exact if_pos (Nat.log2_self_le hn)

theorem gridExponent_one (hn : n ≠ 0) : gridExponent n 1 = (Nat.log2 n : Int) - 52 := by
  have hmin : minExponent = -1074 := rfl
  rw [gridExponent, binaryOrder_one hn, hmin]
  omega

/-- The integer that a number with a nonnegative exponent is. -/
theorem integer?_of_nonneg (negative : Bool) (m k : Nat) :
    integer? ⟨negative, m, (k : Int)⟩ = some (signed negative (m * Nat.pow 2 k)) := by
  rw [integer?]
  exact if_pos (Int.natCast_nonneg k)

/-- An integer below the last place of its significand. -/
theorem integer?_of_neg (negative : Bool) (n : Nat) {k : Nat} (hk : k ≠ 0) :
    integer? ⟨negative, n * Nat.pow 2 k, -(k : Int)⟩ = some (signed negative n) := by
  have hpos : 0 < Nat.pow 2 k := Nat.pow_pos (by decide)
  rw [integer?]
  dsimp only
  rw [if_neg (by omega), Int.neg_neg, Int.toNat_natCast, if_pos (Nat.mul_mod_left n _),
    Nat.mul_div_cancel n hpos]
  rfl

/-- A number of at most 53 bits that is filled up to 53 bits with zeros. -/
theorem mul_pow_lt_of_log2_le (h : Nat.log2 n ≤ 52) :
    n * Nat.pow 2 (52 - Nat.log2 n) < Nat.pow 2 53 := by
  have hpos : 0 < Nat.pow 2 (52 - Nat.log2 n) := Nat.pow_pos (by decide)
  have hlt : n * Nat.pow 2 (52 - Nat.log2 n) <
      Nat.pow 2 (Nat.log2 n + 1) * Nat.pow 2 (52 - Nat.log2 n) :=
    Nat.mul_lt_mul_of_pos_right Nat.lt_log2_self hpos
  have hpow : Nat.pow 2 (Nat.log2 n + 1 + (52 - Nat.log2 n)) =
      Nat.pow 2 (Nat.log2 n + 1) * Nat.pow 2 (52 - Nat.log2 n) := Nat.pow_add 2 _ _
  rw [← hpow, show Nat.log2 n + 1 + (52 - Nat.log2 n) = 53 by omega] at hlt
  exact hlt

/-- **The binary64 number nearest to an integer** is that integer rounded to 53 bits, if it is in
range. -/
theorem exists_nearest_eq (negative : Bool) (hn : n ≠ 0) (h : Nat.log2 n ≤ 1022) :
    ∃ x, nearest negative n 1 = some x ∧ x.integer? = some (signed negative (rounded n)) := by
  have hmax : maxExponent = 971 := rfl
  rw [nearest, if_neg hn, gridExponent_one hn, hmax]
  dsimp only
  rcases Nat.lt_or_ge (Nat.log2 n) 52 with hlog | hlog
  · -- The significand is filled up with zeros, and nothing is rounded.
    have hexponent : (Nat.log2 n : Int) - 52 = -((52 - Nat.log2 n : Nat) : Int) := by omega
    have hbits : n * Nat.pow 2 (52 - Nat.log2 n) ≠ Nat.pow 2 53 :=
      Nat.ne_of_lt (mul_pow_lt_of_log2_le (Nat.le_of_lt hlog))
    rw [hexponent, overPower_one_of_neg n (by omega)]
    dsimp only
    rw [roundHalfEven_one, if_neg hbits]
    dsimp only
    rw [if_pos (by omega)]
    refine ⟨_, rfl, ?_⟩
    rw [integer?_of_neg negative n (by omega), rounded_eq_self (Nat.le_of_lt hlog)]
  · have hexponent : (Nat.log2 n : Int) - 52 = ((Nat.log2 n - 52 : Nat) : Int) := by omega
    rw [hexponent, overPower_one_of_nonneg]
    dsimp only
    by_cases hcarry : roundHalfEven n (lastPlace n) = Nat.pow 2 53
    · rw [lastPlace] at hcarry
      rw [if_pos hcarry]
      dsimp only
      rw [if_pos (by omega)]
      have hvalue : rounded n = Nat.pow 2 52 * Nat.pow 2 (Nat.log2 n - 52 + 1) := by
        rw [rounded, lastPlace, hcarry]
        exact pow_mul_pow_succ _
      exact ⟨_, rfl, hvalue ▸ integer?_of_nonneg negative _ _⟩
    · rw [lastPlace] at hcarry
      rw [if_neg hcarry]
      dsimp only
      rw [if_pos (by omega)]
      exact ⟨_, rfl, integer?_of_nonneg negative _ _⟩

end Whole

end JsonShell.Binary64
