import JsonShell.Text.Blank
import JsonShell.Variable.Reference

/-!
# Expansion of a text in pieces

Expansion goes through a text once, so it can be told piece by piece: a piece without dollar signs
stays as it is, and a reference by a bare name becomes the value of the variable if no character
follows that would belong to the name.
-/

set_option autoImplicit false

namespace JsonShell

/-- The characters of a name. -/
def IsNameChars (cs : List Char) : Prop :=
  ∃ c rest, cs = c :: rest ∧ isNameStart c = true ∧ ∀ d ∈ rest, isNameChar d = true

instance : DecidablePred IsNameChars
  | [] => .isFalse fun ⟨_, _, h, _⟩ => absurd h.symm (List.cons_ne_nil _ _)
  | c :: rest =>
    decidable_of_iff (isNameStart c = true ∧ rest.all isNameChar = true)
      ⟨fun ⟨hc, hrest⟩ => ⟨c, rest, rfl, hc, List.all_eq_true.1 hrest⟩,
        fun ⟨_, _, h, hc, hrest⟩ => by
          obtain ⟨rfl, rfl⟩ := List.cons.inj h
          exact ⟨hc, List.all_eq_true.2 hrest⟩⟩

theorem isNameChars_of_isName {s : String} (h : isName s = true) : IsNameChars s.toList := by
  rw [isName] at h
  cases hs : s.toList with
  | nil =>
    rw [hs] at h
    cases h
  | cons c rest =>
    rw [hs, Bool.and_eq_true, List.all_eq_true] at h
    exact ⟨c, rest, rfl, h.1, h.2⟩

theorem isName_iff {s : String} : isName s = true ↔ IsNameChars s.toList := by
  refine ⟨isNameChars_of_isName, fun ⟨c, rest, hs, hc, hrest⟩ => ?_⟩
  rw [isName, hs, Bool.and_eq_true, List.all_eq_true]
  exact ⟨hc, hrest⟩

theorem IsNameChars.ne_nil {cs : List Char} (h : IsNameChars cs) : cs ≠ [] := by
  obtain ⟨c, rest, rfl, -⟩ := h
  exact List.cons_ne_nil c rest

/-- All characters of a name are characters of names. -/
theorem IsNameChars.isNameChar {cs : List Char} (h : IsNameChars cs) :
    ∀ c ∈ cs, isNameChar c = true := by
  obtain ⟨c, rest, rfl, hc, hrest⟩ := h
  refine List.forall_mem_cons.2 ⟨?_, hrest⟩
  rw [JsonShell.isNameChar, hc]
  rfl

/-- No other character is in a name. -/
theorem IsNameChars.not_mem {cs : List Char} (h : IsNameChars cs) {c : Char}
    (hc : JsonShell.isNameChar c = false) : c ∉ cs := fun hmem =>
  absurd (h.isNameChar c hmem) (Bool.eq_false_iff.1 hc)

theorem toNat_of_isNameStart {c : Char} (h : isNameStart c = true) :
    65 ≤ c.toNat ∧ c.toNat ≤ 122 := by
  rw [isNameStart, Bool.or_eq_true, beq_iff_eq] at h
  rcases h with h | rfl
  · have hletter : (c.isUpper || c.isLower) = true := h
    rw [Bool.or_eq_true] at hletter
    rcases hletter with hupper | hlower
    · have hbounds : 65 ≤ c.toNat ∧ c.toNat ≤ 90 := of_decide_eq_true hupper
      omega
    · have hbounds : (decide (97 ≤ c.toNat) && decide (c.toNat ≤ 122)) = true := hlower
      rw [Bool.and_eq_true, decide_eq_true_eq, decide_eq_true_eq] at hbounds
      omega
  · decide

theorem toNat_of_isNameChar {c : Char} (h : isNameChar c = true) :
    48 ≤ c.toNat ∧ c.toNat ≤ 122 := by
  rw [isNameChar, Bool.or_eq_true] at h
  rcases h with h | h
  · have hbounds := toNat_of_isNameStart h
    omega
  · have hbounds : 48 ≤ c.toNat ∧ c.toNat ≤ 57 := Char.isDigit_iff_toNat.1 h
    omega

theorem isBlank_of_isNameChar {c : Char} (h : isNameChar c = true) : isBlank c = false := by
  have hbounds := toNat_of_isNameChar h
  exact isBlank_eq_false (by omega) (by omega)

/-- Nothing that could go on with a name stands at the start of a text. -/
def EndsName (rest : List Char) : Prop :=
  ∀ c, rest.head? = some c → isNameChar c = false

instance : DecidablePred EndsName
  | [] => .isTrue fun _ h => absurd h.symm (Option.some_ne_none _)
  | c :: _ =>
    decidable_of_iff (isNameChar c = false)
      ⟨fun hc _ h => Option.some.inj h ▸ hc, fun h => h c rfl⟩

theorem endsName_cons {c : Char} (hc : isNameChar c = false) (rest : List Char) :
    EndsName (c :: rest) := by
  rintro d ⟨⟩
  exact hc

theorem EndsName.of_append {xs ys : List Char} (h : EndsName (xs ++ ys)) : EndsName xs := by
  intro c hc
  refine h c ?_
  rw [List.head?_append, hc]
  rfl

namespace Reference

variable {value : List Char → List Char}

/-- A text is its leading name and what comes after that. -/
theorem leadingName_append_drop (cs : List Char) :
    leadingName cs ++ cs.drop (leadingName cs).length = cs := by
  cases cs with
  | nil => rfl
  | cons c rest =>
    rw [leadingName]
    split
    · rw [List.length_cons, List.drop_succ_cons, List.cons_append,
        List.prefix_iff_eq_append.1 (List.takeWhile_prefix isNameChar)]
    · rfl

theorem isNameChar_of_mem_leadingName {cs : List Char} {c : Char} (h : c ∈ leadingName cs) :
    isNameChar c = true := by
  cases cs with
  | nil => cases h
  | cons d rest =>
    rw [leadingName] at h
    split at h
    · rename_i hd
      rcases List.mem_cons.1 h with rfl | h
      · rw [isNameChar, hd]
        rfl
      · exact List.all_eq_true.1 List.all_takeWhile c h
    · cases h

theorem leadingName_append {name rest : List Char} (hname : IsNameChars name)
    (hrest : EndsName rest) : leadingName (name ++ rest) = name := by
  obtain ⟨c, tail, rfl, hc, htail⟩ := hname
  have hstop : rest.takeWhile isNameChar = [] := by
    cases rest with
    | nil => rfl
    | cons d rest => rw [List.takeWhile_cons_of_neg (by rw [hrest d rfl]; exact Bool.false_ne_true)]
  rw [List.cons_append, leadingName, if_pos hc, List.takeWhile_append_of_pos htail, hstop,
    List.append_nil]

theorem read?_append {name rest : List Char} (hname : IsNameChars name) (hrest : EndsName rest) :
    read? (name ++ rest) = some (name, name.length) := by
  have hleading := leadingName_append hname hrest
  obtain ⟨c, tail, rfl, hc, -⟩ := hname
  rw [read?]
  · rw [hleading]
    rfl
  · rintro cs h
    obtain ⟨rfl, -⟩ := List.cons.inj h
    exact absurd hc (by decide)

/-- What has no dollar sign stays as it is. -/
theorem expandFrom_append {cs : List Char} (hcs : '$' ∉ cs) (rest : List Char) :
    expandFrom value 0 (cs ++ rest) = cs ++ expandFrom value 0 rest := by
  induction cs with
  | nil => rfl
  | cons c cs ih =>
    have hc : c ≠ '$' := (List.ne_of_not_mem_cons hcs).symm
    rw [List.cons_append, expandFrom, if_neg hc, ih (List.not_mem_of_not_mem_cons hcs),
      List.cons_append]

theorem expandFrom_of_not_mem {cs : List Char} (hcs : '$' ∉ cs) : expandFrom value 0 cs = cs := by
  have happend : expandFrom value 0 (cs ++ []) = cs ++ expandFrom value 0 [] :=
    expandFrom_append hcs []
  rw [List.append_nil] at happend
  rw [happend, expandFrom, List.append_nil]

/-- A reference becomes the value. -/
theorem expandFrom_reference {name rest : List Char} (hname : IsNameChars name)
    (hrest : EndsName rest) :
    expandFrom value 0 ('$' :: (name ++ rest)) = value name ++ expandFrom value 0 rest := by
  rw [expandFrom, if_pos rfl, read?_append hname hrest]
  dsimp only
  rw [expandFrom_eq_drop, List.drop_left]

end Reference

namespace Store

theorem expand_of_not_mem (s : Store) {text : String} (h : '$' ∉ text.toList) :
    s.expand text = text := by
  rw [expand, expandChars, Reference.expandFrom_of_not_mem h, String.ofList_toList]

end Store

end JsonShell
