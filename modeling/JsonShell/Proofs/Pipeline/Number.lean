import JsonShell.Proofs.Decimal.Integer
import JsonShell.Proofs.Pipeline.Head
import JsonShell.Render

/-!
# Integers as heads of pipelines

An integer at the head of a pipeline is read as a binary64 number, and what has an integer value
below `2 ^ 63` in size is carried as an integer.  So it is not the integer itself that is carried but
the nearest one with 53 bits (`Head.parse_toString`).  The two are the same up to `2 ^ 53`
(`Head.parse_toString_of_le`), and `2 ^ 53 + 1` is the first one that is not carried as it is.  At
the other end, integers that are rounded to `2 ^ 63` or `-2 ^ 63` are carried as floats, and so is
`-2 ^ 63` itself.
-/

set_option autoImplicit false

namespace JsonShell

/-! ## Numbers with an integer value -/

namespace Number

variable {x : Binary64} {r : Int}

theorem ofBinary64_eq_integer (h : x.integer? = some r) (hsmall : r.natAbs < Nat.pow 2 63) :
    ofBinary64 x = .integer r := by
  rw [ofBinary64, h]
  exact if_pos hsmall

theorem ofBinary64_eq_float (h : x.integer? = some r) (hlarge : ¬r.natAbs < Nat.pow 2 63) :
    ofBinary64 x = .float x := by
  rw [ofBinary64, h]
  exact if_neg hlarge

end Number

namespace Record

/-- The entries of a success are in the order of their names. -/
theorem entries_success (v : Value) :
    (success v).entries = [("output", v), ("status", .string "success")] :=
  rfl

theorem indentedChars_success_ofInt (n : Int) :
    (success (.ofInt n)).toValue.indentedChars 0 =
      "\x7b\n  \"output\": ".toList ++
        ((toString n).toList ++ ",\n  \"status\": \"success\"\n\x7d".toList) := by
  rw [toValue, entries_success, Value.indentedChars]
  simp only [Value.indentedEntries, Value.indentedChars, Value.ofInt, Number.text,
    List.append_assoc, List.cons_append]
  rfl

/-- A record with an integer as its output is shown with the decimal text of the integer. -/
theorem render_success_ofInt (colors : Bool) (n : Int) :
    (success (.ofInt n)).render colors =
      "\n\x7b\n  \"output\": " ++ toString n ++ ",\n  \"status\": \"success\"\n\x7d\n\n" := by
  refine String.toList_injective ?_
  have hbody : (success (.ofInt n)).body colors = (success (.ofInt n)).toValue.indented ++ "\n" :=
    rfl
  rw [render, hbody, Value.indented]
  simp only [String.toList_append, String.toList_ofList, indentedChars_success_ofInt,
    List.append_assoc]
  rfl

end Record

/-! ## Reading an integer -/

namespace Head

variable {n : Int}

theorem not_mem_toString {c : Char} (hc : ¬(45 ≤ c.toNat ∧ c.toNat ≤ 57)) :
    c ∉ (toString n).toList :=
  fun h => hc (Numeral.toNat_of_mem_toString h)

theorem trim_toString (n : Int) : Text.trim (toString n) = toString n := by
  have hblank : ∀ c ∈ (toString n).toList, isBlank c = false := fun c hc => by
    have hbounds := Numeral.toNat_of_mem_toString hc
    exact isBlank_eq_false (by omega) (by omega)
  exact Text.trim_eq_self (fun c hc => hblank c (List.mem_of_mem_head? hc))
    fun c hc => hblank c (List.mem_of_mem_getLast? hc)

/-- The text of an integer is a number at the head of a pipeline, the one that its literal has. -/
theorem parse_toString_eq (h : Numeral.Fits n) :
    ∃ x : Binary64, x.integer? = some (Binary64.nearestInt n) ∧
      parse (toString n) = .literal (.success (.number (.ofBinary64 x))) := by
  obtain ⟨x, hread, hinteger⟩ := Decimal.finite?_toString h
  have hne : toString n ≠ "" := fun h =>
    Numeral.toList_toString_ne_nil n (congrArg String.toList h)
  have hbracket : (toString n).toList.head? ≠ some '[' := fun h =>
    not_mem_toString (by decide) (List.mem_of_mem_head? h)
  have hunquote : unquote (toString n) = toString n :=
    unquote_eq_self (fun h => not_mem_toString (by decide) (List.mem_of_mem_head? h.1))
      fun h => not_mem_toString (by decide) (List.mem_of_mem_head? h.1)
  have hnumber : number? (toString n) = some (.ofBinary64 x) := by
    rw [number?, hread]
  exact ⟨x, hinteger, parse_eq_literal (trim_toString n) hne hbracket hunquote hnumber⟩

theorem natAbs_nearestInt_le (h : Numeral.Fits n) :
    (Binary64.nearestInt n).natAbs ≤ Nat.pow 2 63 := by
  have hsize := Decimal.natAbs_le_of_fits h
  have hshort : Binary64.IsShort (Nat.pow 2 63) := ⟨1, 63, by decide, by decide⟩
  have habove := (Binary64.isNearest_nearestInt n).le (Nat.pow 2 63 : Nat) hshort
  have hbelow := (Binary64.isNearest_nearestInt n).le (-(Nat.pow 2 63 : Nat)) hshort
  omega

/-- **Integers are carried as the nearest integers of 53 bits**, those of 53 bits exactly, with the
exception of `-2 ^ 63`: its significand has a single bit, but only what is below `2 ^ 63` in size is
carried as an integer.  One that is rounded up to `2 ^ 63` does not fit a machine word any more and
is carried as a float. -/
theorem parse_toString (h : Numeral.Fits n) :
    ∃ r : Int, Binary64.IsNearest n r ∧ (Binary64.IsShort n.natAbs → r = n) ∧
      r.natAbs ≤ Nat.pow 2 63 ∧
      (r.natAbs < Nat.pow 2 63 →
        parse (toString n) = .literal (.success (.ofInt r)) ∧
        (∀ colors, (Record.success (.ofInt r)).render colors =
          "\n\x7b\n  \"output\": " ++ toString r ++ ",\n  \"status\": \"success\"\n\x7d\n\n") ∧
        project (Record.success (.ofInt r)).output = [toString r]) ∧
      (r = (Nat.pow 2 63 : Nat) → ∃ x : Binary64, x.integer? = some r ∧
        parse (toString n) = .literal (.success (.number (.float x)))) := by
  obtain ⟨x, hinteger, hparse⟩ := parse_toString_eq h
  refine ⟨Binary64.nearestInt n, Binary64.isNearest_nearestInt n, Binary64.nearestInt_eq_self,
    natAbs_nearestInt_le h, fun hsmall => ?_, fun hlarge => ⟨x, hinteger, ?_⟩⟩
  · rw [hparse, Number.ofBinary64_eq_integer hinteger hsmall]
    exact ⟨rfl, fun colors => Record.render_success_ofInt colors _, rfl⟩
  · rw [hparse, Number.ofBinary64_eq_float hinteger (by rw [hlarge]; decide)]

/-- Large powers of two have short significands. -/
theorem parse_toString_power :
    Numeral.Fits 4611686018427387904 ∧ Binary64.IsShort (4611686018427387904 : Int).natAbs ∧
      parse (toString (4611686018427387904 : Int)) =
        .literal (.success (.ofInt 4611686018427387904)) := by
  have hfits : Numeral.Fits 4611686018427387904 := by decide
  have hshort : Binary64.IsShort (4611686018427387904 : Int).natAbs := ⟨1, 62, by decide, by decide⟩
  obtain ⟨r, -, hexact, -, hsmall, -⟩ := parse_toString hfits
  obtain rfl := hexact hshort
  exact ⟨hfits, hshort, (hsmall (by decide)).1⟩

/-- The first integer that is not carried as it is. -/
theorem parse_toString_lost :
    Numeral.Fits 9007199254740993 ∧
      parse (toString (9007199254740993 : Int)) =
        .literal (.success (.ofInt 9007199254740992)) ∧
      parse (toString (9007199254740993 : Int)) ≠
        .literal (.success (.ofInt 9007199254740993)) ∧
      project (Record.success (.ofInt 9007199254740992)).output ≠
        [toString (9007199254740993 : Int)] := by
  decide +kernel

/-- Up to `2 ^ 53` integers are carried as they are. -/
theorem parse_toString_of_le (h : n.natAbs ≤ Nat.pow 2 53) :
    parse (toString n) = .literal (.success (.ofInt n)) := by
  have hfits : Numeral.Fits n := by
    have hword : Numeral.maxInteger = 9223372036854775807 := rfl
    have hbits : Nat.pow 2 53 = 9007199254740992 := rfl
    rw [Numeral.Fits]
    omega
  obtain ⟨x, hinteger, hparse⟩ := parse_toString_eq hfits
  rw [Binary64.nearestInt_eq_self (Binary64.isShort_of_le h)] at hinteger
  rw [hparse, Number.ofBinary64_eq_integer hinteger (Nat.lt_of_le_of_lt h (by decide))]
  rfl

end Head

end JsonShell
