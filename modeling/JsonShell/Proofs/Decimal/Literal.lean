import JsonShell.Decimal.Literal
import JsonShell.Proofs.Text.Numeral

/-!
# What is in a decimal literal

A literal has nothing in it but digits, signs, a point and the letter of an exponent
(`Decimal.isLiteralChar_of_finite?`), so a text with a space is none.
-/

set_option autoImplicit false

namespace JsonShell

namespace Decimal

/-- The characters of literals. -/
def isLiteralChar (c : Char) : Bool :=
  c.isDigit || c == '+' || c == '-' || c == '.' || c == 'e' || c == 'E'

variable {cs : List Char} {c : Char}

theorem isLiteralChar_of_isDigit (h : c.isDigit = true) : isLiteralChar c = true := by
  simp [isLiteralChar, h]

theorem mem_readSign (h : c ∈ cs) : isLiteralChar c = true ∨ c ∈ (readSign cs).2 := by
  unfold readSign
  split
  · rcases List.mem_cons.1 h with rfl | h
    · exact .inl (by decide)
    · exact .inr h
  · rcases List.mem_cons.1 h with rfl | h
    · exact .inl (by decide)
    · exact .inr h
  · exact .inr h

theorem mem_dropWhile_isDigit (h : c ∈ cs) :
    isLiteralChar c = true ∨ c ∈ cs.dropWhile Char.isDigit := by
  rw [← List.takeWhile_append_dropWhile (p := Char.isDigit) (l := cs), List.mem_append] at h
  refine h.imp_left fun h => isLiteralChar_of_isDigit ?_
  exact List.all_eq_true.1 List.all_takeWhile c h

theorem mem_readFraction (h : c ∈ cs) : isLiteralChar c = true ∨ c ∈ (readFraction cs).2 := by
  unfold readFraction
  split
  · rcases List.mem_cons.1 h with rfl | h
    · exact .inl (by decide)
    · exact mem_dropWhile_isDigit h
  · exact .inr h

theorem isLiteralChar_of_readExponent {exponent : Int} (h : readExponent cs = some exponent)
    (hc : c ∈ cs) : isLiteralChar c = true := by
  rcases cs with _ | ⟨letter, rest⟩
  · cases hc
  · rw [readExponent] at h
    split at h
    · rename_i hletter
      rcases List.mem_cons.1 hc with rfl | hc
      · rcases hletter with rfl | rfl <;> decide
      · refine (mem_readSign hc).elim id fun hc => ?_
        dsimp only at h
        split at h
        · cases h
        · rename_i hdigits
          simp only [Bool.or_eq_true, Bool.not_eq_true', not_or, Bool.not_eq_false,
            List.all_eq_true] at hdigits
          exact isLiteralChar_of_isDigit (hdigits.2 c hc)
    · cases h

theorem isLiteralChar_of_readParts {p : Parts} (h : readParts cs = some p) (hc : c ∈ cs) :
    isLiteralChar c = true := by
  rw [readParts] at h
  dsimp only at h
  split at h
  · cases h
  · obtain ⟨exponent, hexponent, -⟩ := Option.map_eq_some_iff.1 h
    refine (mem_readSign hc).elim id fun hc => ?_
    refine (mem_dropWhile_isDigit hc).elim id fun hc => ?_
    refine (mem_readFraction hc).elim id fun hc => ?_
    exact isLiteralChar_of_readExponent hexponent hc

theorem isLiteralChar_of_finite? {text : String} {x : Binary64} (h : finite? text = some x)
    (hc : c ∈ text.toList) : isLiteralChar c = true := by
  obtain ⟨p, hp, -⟩ := Option.bind_eq_some_iff.1 h
  exact isLiteralChar_of_readParts hp hc

end Decimal

end JsonShell
