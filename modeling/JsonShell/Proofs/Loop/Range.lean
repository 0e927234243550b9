import JsonShell.Loop.Source
import JsonShell.Proofs.Text.Numeral
import JsonShell.Proofs.Text.Split

/-!
# The values of ranges

A range that is written with two integers that fit a machine word has the integers from the one to
the other for its values (`rangeValues_ends`).  There is at least one value, each is there once, and
all of them are texts of integers.

The integers between the ends fit a machine word as the ends do, so that both ends are reached, also
where they are the smallest and the largest integer there is; and the range from the other end has
the same values the other way round (`spanning_comm`).

Two dots decide how an expression is read: it is a range if there are integers on both sides of the
first ones, and otherwise it is nothing, whatever commas it has (`exists_rangeValues_iff`).
-/

set_option autoImplicit false

namespace JsonShell

/-- A range as it would be typed. -/
def rangeText (a b : Int) : String :=
  toString a ++ ".." ++ toString b

theorem toList_rangeText (a b : Int) :
    (rangeText a b).toList = (toString a).toList ++ ['.', '.'] ++ (toString b).toList := by
  simp [rangeText]

theorem rangeValues_ends {a b : Int} (ha : Numeral.Fits a) (hb : Numeral.Fits b) :
    rangeValues (rangeText a b) = .ok (spanning a b) := by
  have hdot : '.' ∉ (toString a).toList := by
    intro h
    rcases Numeral.isDigit_or_eq_of_mem_toString h with h | h <;> exact absurd h (by decide)
  have hsplit : Text.splitStringFirst ".." (rangeText a b) = some (toString a, toString b) := by
    rw [Text.splitStringFirst, toList_rangeText]
    show (Text.splitFirst ['.', '.'] _).map _ = _
    rw [Text.splitFirst_append hdot, Option.map_some]
    dsimp only
    rw [String.ofList_toList, String.ofList_toList]
  rw [rangeValues, hsplit]
  dsimp only
  rw [Numeral.integer?_toString ha, Numeral.integer?_toString hb]

section Span

variable {a b n : Int} {i : Nat}

theorem length_spanning (a b : Int) : (spanning a b).length = (a - b).natAbs + 1 := by
  rw [spanning]
  split
  · rw [ascending, List.length_map, List.length_range]
    omega
  · rw [descending, List.length_map, List.length_range]
    omega

/-- The integer that is `i` steps away from `a` in the direction of `b`. -/
def towards (a b : Int) (i : Nat) : Int :=
  if a ≤ b then a + i else a - i

theorem getElem?_spanning (h : i ≤ (a - b).natAbs) :
    (spanning a b)[i]? = some (toString (towards a b i)) := by
  rw [spanning, towards]
  split
  · rw [ascending, List.getElem?_map, List.getElem?_range (by omega)]
    rfl
  · rw [descending, List.getElem?_map, List.getElem?_range (by omega)]
    rfl

/-- No step leaves the integers that fit a machine word. -/
theorem fits_towards (ha : Numeral.Fits a) (hb : Numeral.Fits b) (h : i ≤ (a - b).natAbs) :
    Numeral.Fits (towards a b i) := by
  obtain ⟨hamin, hamax⟩ := ha
  obtain ⟨hbmin, hbmax⟩ := hb
  rw [towards]
  split <;> constructor <;> omega

/-- From the other end as many steps are left. -/
theorem towards_comm (h : i ≤ (a - b).natAbs) :
    towards b a i = towards a b ((a - b).natAbs - i) := by
  rw [towards, towards]
  split <;> split <;> omega

/-- **The other way round** the values are the same. -/
theorem spanning_comm (a b : Int) : spanning b a = (spanning a b).reverse := by
  have hsteps : (b - a).natAbs = (a - b).natAbs := by omega
  refine List.ext_getElem? fun i => ?_
  by_cases h : i ≤ (a - b).natAbs
  · have hlength : i < (spanning a b).length := by
      rw [length_spanning]
      omega
    rw [List.getElem?_reverse hlength, length_spanning, getElem?_spanning (by omega),
      Nat.add_sub_cancel, getElem?_spanning (by omega), towards_comm h]
  · rw [List.getElem?_eq_none, List.getElem?_eq_none]
    · rw [List.length_reverse, length_spanning]
      omega
    · rw [length_spanning]
      omega

end Span

/-! ## Expressions with dots -/

section Dots

variable {expression : String} {before after : List Char}

/-- The values of an expression with dots are those between the integers on the two sides. -/
theorem rangeValues_eq_ok_iff (h : Text.CutsFirst "..".toList expression.toList before after)
    {values : List String} :
    rangeValues expression = .ok values ↔
      ∃ a b, Numeral.integer? (String.ofList before) = some a ∧
        Numeral.integer? (String.ofList after) = some b ∧ spanning a b = values := by
  have hsplit : Text.splitStringFirst ".." expression =
      some (String.ofList before, String.ofList after) := by
    rw [Text.splitStringFirst, (Text.splitFirst_eq_some_iff (by decide)).2 h, Option.map_some]
  rw [rangeValues, hsplit]
  dsimp only
  cases Numeral.integer? (String.ofList before) with
  | none => simp
  | some a =>
    cases Numeral.integer? (String.ofList after) with
    | none => simp
    | some b => simp

/-- The text can stand on a side of the dots. -/
def IsRangeEnd (cs : List Char) : Prop :=
  ∃ n, Numeral.IsLiteral cs n ∧ Numeral.Fits n

theorem isRangeEnd_iff {cs : List Char} :
    IsRangeEnd cs ↔ ∃ n, Numeral.integer? (String.ofList cs) = some n := by
  refine exists_congr fun n => ?_
  rw [Numeral.integer?_eq_some_iff, String.toList_ofList]

/-- **Two dots make a range or nothing.** -/
theorem exists_rangeValues_iff (h : Text.CutsFirst "..".toList expression.toList before after) :
    (∃ values, rangeValues expression = .ok values) ↔ IsRangeEnd before ∧ IsRangeEnd after := by
  simp only [rangeValues_eq_ok_iff h, isRangeEnd_iff]
  constructor
  · rintro ⟨values, a, b, ha, hb, -⟩
    exact ⟨⟨a, ha⟩, ⟨b, hb⟩⟩
  · rintro ⟨⟨a, ha⟩, ⟨b, hb⟩⟩
    exact ⟨spanning a b, a, b, ha, hb, rfl⟩

end Dots

/-! ## Counts -/

theorem rangeValues_toString {n : Int} (h : Numeral.Fits n) :
    rangeValues (toString n) = .ok (ascending 0 n.toNat) := by
  have hnot : ∀ c ∈ (toString n).toList, c ≠ '.' ∧ c ≠ ',' := by
    intro c hc
    rcases Numeral.isDigit_or_eq_of_mem_toString hc with hdigit | rfl
    · constructor <;> rintro rfl <;> exact absurd hdigit (by decide)
    · decide
  have hsplit : Text.splitStringFirst ".." (toString n) = none := by
    rw [Text.splitStringFirst, Option.map_eq_none_iff]
    refine Option.eq_none_iff_forall_ne_some.2 ?_
    rintro ⟨before, after⟩ hsome
    have heq := ((Text.splitFirst_eq_some_iff (by decide)).1 hsome).eq
    have hdot : '.' ∈ (toString n).toList := by
      rw [heq]
      simp
    exact (hnot _ hdot).1 rfl
  have hcomma : ¬(toString n).toList.contains ',' = true := by
    intro hcomma
    exact (hnot _ (List.contains_iff_mem.1 hcomma)).2 rfl
  rw [rangeValues, hsplit]
  dsimp only
  rw [if_neg hcomma, Numeral.integer?_toString h]

/-- **Ranges have all the integers from end to end, in order, and no others**; the other way round
they have them in reverse.  A count has the integers below it.  And an expression with two dots is a
range just if there are integers that fit a machine word on both sides of the first ones. -/
theorem rangeValues_exact :
    (∀ a b : Int, Numeral.Fits a → Numeral.Fits b → ∃ values,
      rangeValues (rangeText a b) = .ok values ∧
      rangeValues (rangeText b a) = .ok values.reverse ∧
      values.length = (a - b).natAbs + 1 ∧
      (∀ i < values.length, values[i]? = some (toString (if a ≤ b then a + i else a - i))) ∧
      values.head? = some (toString a) ∧ values.getLast? = some (toString b) ∧
      ∀ value ∈ values, ∃ n, Numeral.Fits n ∧ value = toString n) ∧
    (∀ n : Int, Numeral.Fits n → ∃ values, rangeValues (toString n) = .ok values ∧
      values.length = n.toNat ∧ ∀ i < values.length, values[i]? = some (toString (i : Int))) ∧
    ∀ expression : String, "..".toList <:+: expression.toList → ∃ before after,
      Text.CutsFirst "..".toList expression.toList before after ∧
      ((∃ values, rangeValues expression = .ok values) ↔ IsRangeEnd before ∧ IsRangeEnd after) := by
  refine ⟨?_, ?_, ?_⟩
  · intro a b ha hb
    have hlength := length_spanning a b
    have hget : ∀ i < (spanning a b).length,
        (spanning a b)[i]? = some (toString (towards a b i)) := by
      intro i hi
      exact getElem?_spanning (by omega)
    refine ⟨spanning a b, rangeValues_ends ha hb, ?_, hlength, hget, ?_, ?_, ?_⟩
    · rw [← spanning_comm, rangeValues_ends hb ha]
    · rw [List.head?_eq_getElem?, hget 0 (by omega)]
      simp [towards]
    · rw [List.getLast?_eq_getElem?, hget _ (by omega), hlength, Nat.add_sub_cancel, towards]
      congr 2
      split <;> omega
    · intro value hvalue
      obtain ⟨i, hi, rfl⟩ := List.getElem_of_mem hvalue
      refine ⟨towards a b i, fits_towards ha hb (by omega), ?_⟩
      exact Option.some.inj ((List.getElem?_eq_getElem hi).symm.trans (hget i hi))
  · intro n hn
    have hlength : (ascending 0 n.toNat).length = n.toNat := by
      rw [ascending, List.length_map, List.length_range]
    refine ⟨ascending 0 n.toNat, rangeValues_toString hn, hlength, ?_⟩
    intro i hi
    rw [ascending, List.getElem?_map, List.getElem?_range (by omega)]
    simp
  · intro expression hdots
    obtain ⟨before, after, hcut⟩ := Text.exists_cutsFirst (by decide) hdots
    exact ⟨before, after, hcut, exists_rangeValues_iff hcut⟩

/-- The widest range, an empty count, and an expression that would be a list without its dots. -/
theorem rangeValues_exact_widest :
    Numeral.Fits (-9223372036854775808) ∧ Numeral.Fits 9223372036854775807 ∧
      (∃ values, rangeValues "-9223372036854775808..9223372036854775807" = .ok values ∧
        values.length = 18446744073709551616 ∧
        values.head? = some "-9223372036854775808" ∧
        values.getLast? = some "9223372036854775807") ∧
      rangeValues "-9223372036854775808" = .ok [] ∧
      "..".toList <:+: "1,2..+3".toList ∧ ¬∃ values, rangeValues "1,2..+3" = .ok values := by
  have hmin : Numeral.Fits (-9223372036854775808) := by decide
  have hmax : Numeral.Fits 9223372036854775807 := by decide
  have hdots : "..".toList <:+: "1,2..+3".toList := ⟨"1,2".toList, "+3".toList, by decide⟩
  have htext : rangeText (-9223372036854775808) 9223372036854775807 =
      "-9223372036854775808..9223372036854775807" := by decide +kernel
  have hsmallest : toString (-9223372036854775808 : Int) = "-9223372036854775808" := by
    decide +kernel
  have hlargest : toString (9223372036854775807 : Int) = "9223372036854775807" := by
    decide +kernel
  obtain ⟨values, hvalues, -, hlength, -, hhead, hlast, -⟩ :=
    rangeValues_exact.1 (-9223372036854775808) 9223372036854775807 hmin hmax
  obtain ⟨few, hfew, hcount, -⟩ := rangeValues_exact.2.1 (-9223372036854775808) hmin
  obtain ⟨before, after, hcut, haccepted⟩ := rangeValues_exact.2.2 "1,2..+3" hdots
  have hbefore : before = "1,2".toList := by
    have hsplit := (Text.splitFirst_eq_some_iff (by decide)).2 hcut
    have hfound : Text.splitFirst "..".toList "1,2..+3".toList =
        some ("1,2".toList, "+3".toList) := by decide +kernel
    rw [hfound] at hsplit
    exact (Prod.mk.inj (Option.some.inj hsplit)).1.symm
  have hend : ¬IsRangeEnd "1,2".toList := by
    have hnone : Numeral.integer? (String.ofList "1,2".toList) = none := by decide +kernel
    rw [isRangeEnd_iff]
    rintro ⟨n, hn⟩
    rw [hnone] at hn
    cases hn
  rw [htext] at hvalues
  rw [hsmallest] at hhead hfew
  rw [hlargest] at hlast
  rw [List.eq_nil_of_length_eq_zero hcount] at hfew
  exact ⟨hmin, hmax, ⟨values, hvalues, hlength, hhead, hlast⟩, hfew, hdots,
    fun h => hend (hbefore ▸ (haccepted.1 h).1)⟩

end JsonShell
