import JsonShell.Text.Blank
import Mathlib.Data.List.TakeWhile

/-!
# What trimming leaves

Trimming takes blanks off the ends of a text and nothing else (`exists_eq_trimChars`).  So it does
nothing the second time, and nothing is left just of blank texts.
-/

set_option autoImplicit false

namespace JsonShell.Text

variable {p : Char → Bool} {cs : List Char} {s : String}

/-- A text is what stripping leaves of it, with what is stripped around. -/
theorem exists_eq_stripChars (p : Char → Bool) (cs : List Char) :
    ∃ before after, (∀ c ∈ before, p c = true) ∧ (∀ c ∈ after, p c = true) ∧
      cs = before ++ stripChars p cs ++ after := by
  refine ⟨cs.takeWhile p, ((cs.dropWhile p).reverse.takeWhile p).reverse,
    fun c => List.mem_takeWhile_imp, fun c hc => List.mem_takeWhile_imp (List.mem_reverse.1 hc), ?_⟩
  rw [List.append_assoc, stripChars, dropWhileEnd_append_takeWhile, List.takeWhile_append_dropWhile]

/-- A text is what trimming leaves of it, with blanks around. -/
theorem exists_eq_trimChars (cs : List Char) :
    ∃ before after, (∀ c ∈ before, isBlank c = true) ∧ (∀ c ∈ after, isBlank c = true) ∧
      cs = before ++ trimChars cs ++ after :=
  exists_eq_stripChars isBlank cs

theorem trimChars_trimChars (cs : List Char) : trimChars (trimChars cs) = trimChars cs :=
  stripChars_eq_self (fun _ => not_of_head?_stripChars) fun _ => not_of_getLast?_stripChars

theorem trim_trim (s : String) : trim (trim s) = trim s := by
  rw [trim, trim, String.toList_ofList, trimChars_trimChars]

theorem length_trimChars_le (cs : List Char) : (trimChars cs).length ≤ cs.length := by
  obtain ⟨before, after, -, -, heq⟩ := exists_eq_trimChars cs
  have hlength := congrArg List.length heq
  simp only [List.length_append] at hlength
  omega

theorem trimChars_subset (cs : List Char) : trimChars cs ⊆ cs := by
  obtain ⟨before, after, -, -, heq⟩ := exists_eq_trimChars cs
  intro c hc
  rw [heq]
  exact List.mem_append_left _ (List.mem_append_right _ hc)

/-- Of a text nothing is left just if it is blank. -/
theorem trimChars_eq_nil : trimChars cs = [] ↔ ∀ c ∈ cs, isBlank c = true := by
  constructor
  · intro h c hc
    obtain ⟨before, after, hbefore, hafter, heq⟩ := exists_eq_trimChars cs
    rw [heq, h, List.append_nil] at hc
    exact (List.mem_append.1 hc).elim (hbefore c) (hafter c)
  · intro h
    rw [trimChars, stripChars, List.dropWhile_eq_nil_iff.2 h]
    rfl

theorem trim_eq_empty : trim s = "" ↔ isAllBlank s = true := by
  rw [isAllBlank, List.all_eq_true, ← trimChars_eq_nil, trim, String.ofList_eq_empty_iff]

/-- Blanks around a text make no difference. -/
theorem trimChars_append {before after : List Char} (hbefore : ∀ c ∈ before, isBlank c = true)
    (hafter : ∀ c ∈ after, isBlank c = true) :
    trimChars (before ++ cs ++ after) = trimChars cs := by
  obtain ⟨before', after', hbefore', hafter', heq⟩ := exists_eq_trimChars cs
  by_cases hne : trimChars cs = []
  · rw [hne, trimChars_eq_nil]
    rw [trimChars_eq_nil] at hne
    intro c hc
    rcases List.mem_append.1 hc with hc | hc
    · exact (List.mem_append.1 hc).elim (hbefore c) (hne c)
    · exact hafter c hc
  · have hsplit : before ++ cs ++ after =
        (before ++ before') ++ trimChars cs ++ (after' ++ after) := by
      rw [show before ++ cs ++ after = before ++ (before' ++ trimChars cs ++ after') ++ after by
        rw [← heq]]
      simp only [List.append_assoc]
    rw [hsplit]
    refine stripChars_append (fun c hc => ?_) (fun c hc => ?_) hne (trimChars_trimChars cs)
    · exact (List.mem_append.1 hc).elim (hbefore c) (hbefore' c)
    · exact (List.mem_append.1 hc).elim (hafter' c) (hafter c)

theorem trimChars_append_left {before : List Char} (hbefore : ∀ c ∈ before, isBlank c = true) :
    trimChars (before ++ cs) = trimChars cs := by
  have happend := @trimChars_append cs before [] hbefore (List.forall_mem_nil _)
  rwa [List.append_nil] at happend

theorem trimChars_append_right {after : List Char} (hafter : ∀ c ∈ after, isBlank c = true) :
    trimChars (cs ++ after) = trimChars cs :=
  trimChars_append (List.forall_mem_nil _) hafter

/-- Trimming stops at a first character that is not blank. -/
theorem head?_trimChars {c : Char} (hhead : cs.head? = some c) (hc : isBlank c = false) :
    (trimChars cs).head? = some c := by
  obtain ⟨before, after, hbefore, hafter, heq⟩ := exists_eq_trimChars cs
  rw [heq, List.head?_append, List.head?_append] at hhead
  cases before with
  | cons b before =>
    obtain rfl := Option.some.inj hhead
    rw [hbefore b List.mem_cons_self] at hc
    cases hc
  | nil =>
    cases htrim : trimChars cs with
    | cons d rest =>
      rw [htrim] at hhead
      exact hhead
    | nil =>
      rw [htrim] at hhead
      rw [hafter c (List.mem_of_mem_head? hhead)] at hc
      cases hc

/-- Nothing is trimmed between ends that are not blank. -/
theorem trim_of_ends {first last : Char} {inner : List Char}
    (h : s.toList = first :: (inner ++ [last])) (hfirst : isBlank first = false)
    (hlast : isBlank last = false) : trim s = s := by
  refine trim_eq_self ?_ ?_
  · rw [h]
    rintro c ⟨⟩
    exact hfirst
  · intro c hc
    rw [h, ← List.cons_append, List.getLast?_concat] at hc
    rwa [← Option.some.inj hc]

end JsonShell.Text
