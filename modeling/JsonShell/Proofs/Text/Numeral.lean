import JsonShell.Text.Numeral

/-!
# Integers are read back

The decimal text of an integer that fits a machine word is a literal of that integer
(`integer?_toString`), and different integers have different texts.

What a literal is can be said without reading it from left to right: an optional sign and digits
(`IsLiteral`).  Just the literals of integers that fit a machine word are read
(`integer?_eq_some_iff`).
-/

set_option autoImplicit false

namespace JsonShell.Numeral

/-- The integer fits a machine word. -/
def Fits (n : Int) : Prop :=
  -(maxInteger + 1 : Nat) ≤ n ∧ n ≤ maxInteger

instance (n : Int) : Decidable (Fits n) :=
  inferInstanceAs (Decidable (_ ∧ _))

/-- Further digits make a number no smaller. -/
theorem le_ofDigitChars (cs : List Char) (n : Nat) : n ≤ Nat.ofDigitChars 10 cs n := by
  induction cs generalizing n with
  | nil => simp
  | cons c rest ih =>
    rw [Nat.ofDigitChars_cons]
    exact Nat.le_trans (by omega) (ih _)

/-- Digits are read from left to right, and no part of a number within the bound exceeds it. -/
theorem readDigits_eq_ok {bound : Nat} {cs : List Char} :
    ∀ {value : Nat}, (∀ c ∈ cs, c.isDigit) → Nat.ofDigitChars 10 cs value ≤ bound →
      readDigits bound value cs = .ok (Nat.ofDigitChars 10 cs value) := by
  induction cs with
  | nil => exact fun _ _ => rfl
  | cons c rest ih =>
    intro value hdigits hbound
    have hnext : Nat.ofDigitChars 10 (c :: rest) value =
        Nat.ofDigitChars 10 rest (value * 10 + digitValue c) := by
      rw [Nat.ofDigitChars_cons, Nat.mul_comm]
      rfl
    rw [hnext] at hbound ⊢
    rw [readDigits, if_pos (hdigits c List.mem_cons_self)]
    dsimp only
    rw [if_pos (Nat.le_trans (le_ofDigitChars rest _) hbound)]
    exact ih (fun d hd => hdigits d (List.mem_cons_of_mem c hd)) hbound

theorem isDigit_of_mem_toDigits {n : Nat} {c : Char} (h : c ∈ Nat.toDigits 10 n) : c.isDigit :=
  Nat.isDigit_of_mem_toDigits (by decide) (by decide) h

theorem readSome_toDigits {bound n : Nat} (h : n ≤ bound) :
    readSome bound (Nat.toDigits 10 n) = .ok n := by
  have hread : readDigits bound 0 (Nat.toDigits 10 n) = .ok n := by
    rw [readDigits_eq_ok (fun c hc => isDigit_of_mem_toDigits hc)
      (by rw [Nat.ofDigitChars_ten_toDigits]; exact h), Nat.ofDigitChars_ten_toDigits]
  rw [readSome]
  · exact hread
  · exact Nat.toDigits_ne_nil

/-- The text of an integer: its digits, after a minus sign if it is negative. -/
theorem toList_toString (n : Int) :
    (toString n).toList =
      if 0 ≤ n then Nat.toDigits 10 n.toNat else '-' :: Nat.toDigits 10 (-n).toNat := by
  rw [Int.toString_eq_repr, Int.repr_eq_if]
  split
  · exact Nat.toList_repr
  · rw [String.toList_append, Nat.toList_repr]
    rfl

theorem readInteger_of_digits {cs : List Char} (hne : cs ≠ []) (h : ∀ c ∈ cs, c.isDigit) :
    readInteger cs = (readSome maxInteger cs).map Int.ofNat := by
  rw [readInteger]
  · exact hne
  · rintro rest rfl
    exact absurd (h '-' List.mem_cons_self) (by decide)
  · rintro rest rfl
    exact absurd (h '+' List.mem_cons_self) (by decide)

/-- **The text of an integer denotes it**, if it fits a machine word. -/
theorem integer?_toString {n : Int} (h : Fits n) : integer? (toString n) = some n := by
  obtain ⟨hmin, hmax⟩ := h
  rw [integer?, toList_toString]
  split
  · rename_i hn
    rw [readInteger_of_digits Nat.toDigits_ne_nil fun c hc => isDigit_of_mem_toDigits hc,
      readSome_toDigits (by omega)]
    exact congrArg some (Int.toNat_of_nonneg hn)
  · rw [readInteger, readSome_toDigits (by omega)]
    show some (-((-n).toNat : Int)) = some n
    rw [Int.toNat_of_nonneg (by omega), Int.neg_neg]

/-! ## What is in an integer literal -/

section Literal

variable {bound value n : Nat} {cs : List Char} {c : Char}

theorem isDigit_of_readDigits (h : readDigits bound value cs = .ok n) (hc : c ∈ cs) :
    c.isDigit = true := by
  induction cs generalizing value with
  | nil => cases hc
  | cons d rest ih =>
    rw [readDigits] at h
    split at h
    · rename_i hdigit
      dsimp only at h
      split at h
      · rcases List.mem_cons.1 hc with rfl | hc
        · exact hdigit
        · exact ih h hc
      · cases h
    · cases h

theorem isDigit_of_readSome (h : readSome bound cs = .ok n) (hc : c ∈ cs) : c.isDigit = true := by
  cases cs with
  | nil => cases hc
  | cons d rest => exact isDigit_of_readDigits h hc

/-- A literal has nothing but digits after its sign. -/
theorem isDigit_or_sign_of_integer? {text : String} {z : Int} (h : integer? text = some z)
    (hc : c ∈ text.toList) : c.isDigit = true ∨ c = '+' ∨ c = '-' := by
  rw [integer?] at h
  generalize text.toList = cs at h hc
  have hread : ∀ (bound : Nat) {digits : List Char},
      (∀ fault, readSome bound digits ≠ .error fault) → c ∈ digits → c.isDigit = true := by
    intro bound digits hne hmem
    cases hsome : readSome bound digits with
    | error fault => exact absurd hsome (hne fault)
    | ok n => exact isDigit_of_readSome hsome hmem
  unfold readInteger at h
  split at h
  · cases h
  · rcases List.mem_cons.1 hc with rfl | hc
    · exact .inr (.inr rfl)
    · refine .inl (hread (maxInteger + 1) (fun fault heq => ?_) hc)
      rw [heq] at h
      cases h
  · rcases List.mem_cons.1 hc with rfl | hc
    · exact .inr (.inl rfl)
    · refine .inl (hread maxInteger (fun fault heq => ?_) hc)
      rw [heq] at h
      cases h
  · refine .inl (hread maxInteger (fun fault heq => ?_) hc)
    rw [heq] at h
    cases h

theorem ofDigitChars_of_readDigits (h : readDigits bound value cs = .ok n)
    (hvalue : value ≤ bound) :
    n = Nat.ofDigitChars 10 cs value ∧ n ≤ bound := by
  induction cs generalizing value with
  | nil =>
    obtain rfl := Except.ok.inj h
    exact ⟨rfl, hvalue⟩
  | cons d rest ih =>
    rw [readDigits] at h
    split at h
    · dsimp only at h
      split at h
      · rename_i hbound
        rw [Nat.ofDigitChars_cons, Nat.mul_comm]
        exact ih h hbound
      · cases h
    · cases h

/-- The characters are the digits of the number, at least one. -/
structure AreDigits (cs : List Char) (n : Nat) : Prop where
  ne_nil : cs ≠ []
  isDigit : ∀ c ∈ cs, c.isDigit = true
  value : n = Nat.ofDigitChars 10 cs 0

/-- The characters are a literal of the integer: an optional sign and digits. -/
inductive IsLiteral : List Char → Int → Prop
  | unsigned {cs : List Char} {n : Nat} (h : AreDigits cs n) : IsLiteral cs n
  | plus {cs : List Char} {n : Nat} (h : AreDigits cs n) : IsLiteral ('+' :: cs) n
  | minus {cs : List Char} {n : Nat} (h : AreDigits cs n) : IsLiteral ('-' :: cs) (-n)

theorem readSome_eq_ok_iff : readSome bound cs = .ok n ↔ AreDigits cs n ∧ n ≤ bound := by
  constructor
  · intro h
    have hne : cs ≠ [] := by
      rintro rfl
      cases h
    have hdigit : ∀ c ∈ cs, c.isDigit = true := fun c hc => isDigit_of_readSome h hc
    rw [readSome] at h
    · obtain ⟨hvalue, hbound⟩ := ofDigitChars_of_readDigits h (Nat.zero_le _)
      exact ⟨⟨hne, hdigit, hvalue⟩, hbound⟩
    · exact hne
  · rintro ⟨⟨hne, hdigit, rfl⟩, hbound⟩
    rw [readSome]
    · exact readDigits_eq_ok hdigit hbound
    · exact hne

/-- A sign does not hide whether its digits are read. -/
theorem map_readSome_eq_iff {f : Nat → Int} {z : Int} :
    ((readSome bound cs).map f).toOption = some z ↔ ∃ n, AreDigits cs n ∧ n ≤ bound ∧ f n = z := by
  constructor
  · intro h
    cases hread : readSome bound cs with
    | error fault =>
      rw [hread] at h
      cases h
    | ok n =>
      rw [hread] at h
      obtain ⟨hdigits, hbound⟩ := readSome_eq_ok_iff.1 hread
      exact ⟨n, hdigits, hbound, Option.some.inj h⟩
  · rintro ⟨n, hdigits, hbound, rfl⟩
    rw [readSome_eq_ok_iff.2 ⟨hdigits, hbound⟩]
    rfl

end Literal

/-! ## The first character tells which literal it is -/

theorem readInteger_minus (digits : List Char) : readInteger ('-' :: digits) =
    (readSome (maxInteger + 1) digits).map fun (n : Nat) => -(n : Int) := by
  rw [readInteger]
  cases readSome (maxInteger + 1) digits <;> rfl

theorem isLiteral_minus_iff {digits : List Char} {z : Int} :
    IsLiteral ('-' :: digits) z ↔ ∃ n : Nat, AreDigits digits n ∧ -(n : Int) = z := by
  constructor
  · rintro (h | h | h)
    · exact absurd (h.isDigit '-' List.mem_cons_self) (by decide)
    · exact ⟨_, h, rfl⟩
  · rintro ⟨n, h, rfl⟩
    exact .minus h

theorem isLiteral_plus_iff {digits : List Char} {z : Int} :
    IsLiteral ('+' :: digits) z ↔ ∃ n : Nat, AreDigits digits n ∧ (n : Int) = z := by
  constructor
  · rintro (h | h | h)
    · exact absurd (h.isDigit '+' List.mem_cons_self) (by decide)
    · exact ⟨_, h, rfl⟩
  · rintro ⟨n, h, rfl⟩
    exact .plus h

section Unsigned

variable {cs : List Char} (hminus : cs.head? ≠ some '-') (hplus : cs.head? ≠ some '+')
include hminus hplus

theorem toOption_readInteger_unsigned :
    (readInteger cs).toOption = ((readSome maxInteger cs).map Int.ofNat).toOption := by
  rcases cs with _ | ⟨c, cs⟩
  · rfl
  · rw [readInteger]
    · exact List.cons_ne_nil c cs
    · rintro rest ⟨rfl, rfl⟩
      exact hminus rfl
    · rintro rest ⟨rfl, rfl⟩
      exact hplus rfl

theorem isLiteral_unsigned_iff {z : Int} :
    IsLiteral cs z ↔ ∃ n : Nat, AreDigits cs n ∧ (n : Int) = z := by
  constructor
  · rintro (h | h | h)
    · exact ⟨_, h, rfl⟩
    · exact absurd rfl hplus
    · exact absurd rfl hminus
  · rintro ⟨n, h, rfl⟩
    exact .unsigned h

end Unsigned

/-- **What is read is a literal of an integer that fits a machine word**, and nothing else is. -/
theorem integer?_eq_some_iff {text : String} {z : Int} :
    integer? text = some z ↔ IsLiteral text.toList z ∧ Fits z := by
  rw [integer?]
  generalize text.toList = cs
  by_cases hminus : cs.head? = some '-'
  · obtain ⟨digits, rfl⟩ := List.head?_eq_some_iff.1 hminus
    rw [readInteger_minus, map_readSome_eq_iff, isLiteral_minus_iff]
    constructor
    · rintro ⟨n, hdigits, hbound, rfl⟩
      exact ⟨⟨n, hdigits, rfl⟩, by constructor <;> omega⟩
    · rintro ⟨⟨n, hdigits, rfl⟩, hmin, -⟩
      exact ⟨n, hdigits, by omega, rfl⟩
  · -- A plus sign makes no difference to the value.
    have hunsigned {digits : List Char}
        (hread : (readInteger cs).toOption =
          ((readSome maxInteger digits).map Int.ofNat).toOption)
        (hliteral : IsLiteral cs z ↔ ∃ n : Nat, AreDigits digits n ∧ (n : Int) = z) :
        (readInteger cs).toOption = some z ↔ IsLiteral cs z ∧ Fits z := by
      rw [hread, map_readSome_eq_iff, hliteral]
      constructor
      · rintro ⟨n, hdigits, hbound, rfl⟩
        exact ⟨⟨n, hdigits, rfl⟩, by constructor <;> simp <;> omega⟩
      · rintro ⟨⟨n, hdigits, rfl⟩, -, hmax⟩
        exact ⟨n, hdigits, by omega, rfl⟩
    by_cases hplus : cs.head? = some '+'
    · obtain ⟨digits, rfl⟩ := List.head?_eq_some_iff.1 hplus
      exact hunsigned rfl isLiteral_plus_iff
    · exact hunsigned (toOption_readInteger_unsigned hminus hplus)
        (isLiteral_unsigned_iff hminus hplus)

/-! ## Unsigned literals -/

/-- The characters are a literal of a natural number: perhaps a plus sign, and digits. -/
inductive IsUnsigned : List Char → Nat → Prop
  | plain {cs : List Char} {n : Nat} (h : AreDigits cs n) : IsUnsigned cs n
  | plus {cs : List Char} {n : Nat} (h : AreDigits cs n) : IsUnsigned ('+' :: cs) n

/-- **What is read are the unsigned literals of numbers that fit a machine word.** -/
theorem natural_eq_ok_iff {text : String} {n : Nat} :
    natural text = .ok n ↔ IsUnsigned text.toList n ∧ n ≤ maxNatural := by
  rw [natural]
  generalize text.toList = cs
  by_cases hplus : cs.head? = some '+'
  · obtain ⟨digits, rfl⟩ := List.head?_eq_some_iff.1 hplus
    rw [readNatural, readSome_eq_ok_iff]
    constructor
    · rintro ⟨hdigits, hbound⟩
      exact ⟨.plus hdigits, hbound⟩
    · rintro ⟨hplain | hdigits, hbound⟩
      · exact absurd (hplain.isDigit '+' List.mem_cons_self) (by decide)
      · exact ⟨hdigits, hbound⟩
  · have hread : readNatural cs = .ok n ↔ readSome maxNatural cs = .ok n := by
      rcases cs with _ | ⟨c, cs⟩
      · constructor <;> rintro ⟨⟩
      · rw [readNatural]
        · exact List.cons_ne_nil c cs
        · rintro rest ⟨rfl, rfl⟩
          exact hplus rfl
    rw [hread, readSome_eq_ok_iff]
    constructor
    · rintro ⟨hdigits, hbound⟩
      exact ⟨.plain hdigits, hbound⟩
    · rintro ⟨hdigits | hdigits, hbound⟩
      · exact ⟨hdigits, hbound⟩
      · exact absurd rfl hplus

/-! ## Texts of integers -/

/-- The text of an integer has nothing but digits and a minus sign. -/
theorem isDigit_or_eq_of_mem_toString {n : Int} {c : Char} (h : c ∈ (toString n).toList) :
    c.isDigit ∨ c = '-' := by
  rw [toList_toString] at h
  split at h
  · exact .inl (isDigit_of_mem_toDigits h)
  · rcases List.mem_cons.1 h with rfl | h
    · exact .inr rfl
    · exact .inl (isDigit_of_mem_toDigits h)

theorem toNat_of_mem_toString {n : Int} {c : Char} (h : c ∈ (toString n).toList) :
    45 ≤ c.toNat ∧ c.toNat ≤ 57 := by
  rcases isDigit_or_eq_of_mem_toString h with h | rfl
  · have hbounds : 48 ≤ c.toNat ∧ c.toNat ≤ 57 := Char.isDigit_iff_toNat.1 h
    omega
  · decide

theorem toList_toString_ne_nil (n : Int) : (toString n).toList ≠ [] := by
  rw [toList_toString]
  split
  · exact Nat.toDigits_ne_nil
  · exact List.cons_ne_nil _ _

end JsonShell.Numeral
