import JsonShell.Prompt
import Mathlib.Data.List.Infix
import Mathlib.Order.Fin.Basic
import Mathlib.Order.WellFounded

/-!
# Prompts in a single pass

The codes of a template are meant to be replaced in a single pass from left to right, so that no
text that is put in is taken for a code (`substitute`).  They are replaced one after the other
instead, each in all of the text that there is by then.

Replacing one more code is the same as a pass for one more code, as long as the text has no more of
that code than the template has (`replaceCode_substitute`).  So the prompt is that of a single pass
if no step makes a code that is still to be replaced (`Independent`), and else there is a step that
replaces more than the template asks for (`exists_made_code`).  A text that has a percent sign can
make a code, and so can a percent sign of the template in front of a code.  Without these no step
does (`independent_of_isPlain`).
-/

set_option autoImplicit false

namespace JsonShell.Prompt

/-! ## The single pass -/

/-- The text with the replacements of all codes, in a single pass from left to right. -/
def substitute (codes : List (Char × String)) : List Char → List Char
  | [] => []
  | [c] => [c]
  | a :: b :: rest =>
    match if a = '%' then codes.lookup b else none with
    | some text => text.toList ++ substitute codes rest
    | none => a :: substitute codes (b :: rest)

/-- How often the code stands in the text. -/
def occurrences (code : Char) (cs : List Char) : Nat :=
  (cs.zip cs.tail).count ('%', code)

/-- The codes are different characters other than the percent sign. -/
structure AreCodes (codes : List (Char × String)) : Prop where
  ne_percent : ∀ code ∈ codes, code.1 ≠ '%'
  distinct : codes.Pairwise fun code other => code.1 ≠ other.1

/-- The text with the replacements of all codes, one code after the other. -/
def replaceCodes (codes : List (Char × String)) (template : List Char) : List Char :=
  codes.foldl (fun text (code, new) => replaceCode code new.toList text) template

/-- When the codes before it have been replaced in a single pass, there is no more of the code than
in the template. -/
def IsAsOften (codes : List (Char × String)) (template : List Char) (n : Fin codes.length) : Prop :=
  occurrences codes[n].1 (substitute (codes.take n) template) = occurrences codes[n].1 template

instance (codes : List (Char × String)) (template : List Char) (n : Fin codes.length) :
    Decidable (IsAsOften codes template n) :=
  inferInstanceAs (Decidable (_ = _))

/-- No step makes a code that is still to be replaced. -/
def Independent (codes : List (Char × String)) (template : List Char) : Prop :=
  ∀ n : Fin codes.length, IsAsOften codes template n

instance (codes : List (Char × String)) (template : List Char) :
    Decidable (Independent codes template) :=
  inferInstanceAs (Decidable (∀ _ : Fin codes.length, _))

/-- No text that is put in has a percent sign, and in the template no percent sign stands in front
of a code. -/
structure IsPlain (codes : List (Char × String)) (template : List Char) : Prop where
  not_mem : ∀ code ∈ codes, '%' ∉ code.2.toList
  apart : ∀ code ∈ codes, ¬ ['%', '%', code.1] <:+: template

variable {codes before : List (Char × String)} {code a b : Char} {text : String}
  {cs rest template : List Char}

/-! ## Counting codes -/

theorem occurrences_cons (code a : Char) (cs : List Char) : occurrences code (a :: cs) =
    (if a = '%' ∧ cs.head? = some code then 1 else 0) + occurrences code cs := by
  cases cs with
  | nil => simp [occurrences]
  | cons b rest =>
    rw [occurrences, occurrences, List.tail_cons, List.zip_cons_cons, List.count_cons,
      List.tail_cons, Nat.add_comm]
    simp

theorem le_occurrences_append (code : Char) (cs rest : List Char) :
    occurrences code rest ≤ occurrences code (cs ++ rest) := by
  induction cs with
  | nil => exact Nat.le_refl _
  | cons a cs ih =>
    rw [List.cons_append, occurrences_cons]
    omega

/-- A text without percent signs has no codes, and it ends with no part of one. -/
theorem occurrences_append_of_not_mem (h : '%' ∉ cs) :
    occurrences code (cs ++ rest) = occurrences code rest := by
  induction cs with
  | nil => rfl
  | cons a cs ih =>
    have ha : a ≠ '%' := (List.ne_of_not_mem_cons h).symm
    rw [List.cons_append, occurrences_cons, if_neg fun hcode => ha hcode.1, Nat.zero_add,
      ih (List.not_mem_of_not_mem_cons h)]

/-! ## One code after another -/

theorem replaceCode_code (code : Char) (new rest : List Char) :
    replaceCode code new ('%' :: code :: rest) = new ++ replaceCode code new rest := by
  rw [replaceCode, if_pos ⟨rfl, rfl⟩]

theorem replaceCode_cons {new : List Char} (h : ¬(a = '%' ∧ cs.head? = some code)) :
    replaceCode code new (a :: cs) = a :: replaceCode code new cs := by
  cases cs with
  | nil => rfl
  | cons b rest => rw [replaceCode, if_neg (by simpa using h)]

/-- What has no codes and does not join with the rest to one is left alone. -/
theorem replaceCode_append {new : List Char}
    (h : occurrences code (cs ++ rest) = occurrences code rest) :
    replaceCode code new (cs ++ rest) = cs ++ replaceCode code new rest := by
  induction cs with
  | nil => rfl
  | cons a cs ih =>
    rw [List.cons_append, occurrences_cons] at h
    have hle := le_occurrences_append code cs rest
    have hborder : ¬(a = '%' ∧ (cs ++ rest).head? = some code) := by
      intro hcode
      rw [if_pos hcode] at h
      omega
    rw [if_neg hborder, Nat.zero_add] at h
    rw [List.cons_append, replaceCode_cons hborder, ih h, List.cons_append]

/-! ## Passes -/

theorem substitute_code (h : codes.lookup b = some text) :
    substitute codes ('%' :: b :: rest) = text.toList ++ substitute codes rest := by
  rw [substitute, if_pos rfl, h]

theorem substitute_cons (h : a = '%' → ∀ b, cs.head? = some b → codes.lookup b = none) :
    substitute codes (a :: cs) = a :: substitute codes cs := by
  cases cs with
  | nil => rfl
  | cons b rest =>
    rw [substitute]
    by_cases ha : a = '%'
    · rw [if_pos ha, h ha b rfl]
    · rw [if_neg ha]

theorem substitute_nil (cs : List Char) : substitute [] cs = cs := by
  induction cs with
  | nil => rfl
  | cons a cs ih => rw [substitute_cons fun _ _ _ => rfl, ih]

/-- A text is read in the same way by every pass: it is empty, begins with a code, or begins with a
character that is copied. -/
theorem pass_induction (codes : List (Char × String)) {motive : List Char → Prop}
    (nil : motive [])
    (code : ∀ b text rest, codes.lookup b = some text → motive rest → motive ('%' :: b :: rest))
    (copy : ∀ a cs, (a = '%' → ∀ b, cs.head? = some b → codes.lookup b = none) → motive cs →
      motive (a :: cs)) (cs : List Char) : motive cs := by
  match cs with
  | [] => exact nil
  | [a] => exact copy a [] (fun _ _ h => nomatch h) nil
  | a :: b :: rest =>
    cases hlookup : if a = '%' then codes.lookup b else none with
    | some text =>
      have ha : a = '%' := by
        by_contra ha
        rw [if_neg ha] at hlookup
        cases hlookup
      subst ha
      exact code b text rest hlookup (pass_induction codes nil code copy rest)
    | none =>
      refine copy a (b :: rest) (fun ha d hd => ?_) (pass_induction codes nil code copy (b :: rest))
      obtain rfl : b = d := Option.some.inj hd
      rwa [if_pos ha] at hlookup

/-- A pass copies what is no percent sign. -/
theorem head?_substitute (ha : a ≠ '%') : (substitute codes (a :: cs)).head? = some a := by
  rw [substitute_cons fun h => absurd h ha]
  rfl

/-- What is left of a template after a code that is another one. -/
theorem occurrences_code (hpercent : before.lookup '%' = none) (hcode : before.lookup code = none)
    (hb : before.lookup b = some text) :
    occurrences code ('%' :: b :: rest) = occurrences code rest := by
  have hne : b ≠ '%' := by
    rintro rfl
    rw [hpercent] at hb
    cases hb
  have hother : b ≠ code := by
    rintro rfl
    rw [hcode] at hb
    cases hb
  rw [occurrences_cons, occurrences_cons, if_neg (by simpa using hother), if_neg fun h => hne h.1,
    Nat.zero_add, Nat.zero_add]

/-- A code of the template that is copied is still there. -/
theorem head?_substitute_of_head? (hcode : code ≠ '%') (h : cs.head? = some code) :
    (substitute before cs).head? = some code := by
  obtain ⟨rest, rfl⟩ := List.head?_eq_some_iff.1 h
  exact head?_substitute hcode

/-- No pass for other codes takes away from a code. -/
theorem le_occurrences_substitute (hpercent : before.lookup '%' = none) (hcode : code ≠ '%')
    (hnew : before.lookup code = none) (cs : List Char) :
    occurrences code cs ≤ occurrences code (substitute before cs) := by
  induction cs using pass_induction before with
  | nil => exact Nat.le_refl _
  | code b text rest hb ih =>
    rw [substitute_code hb, occurrences_code hpercent hnew hb]
    exact ih.trans (le_occurrences_append code _ _)
  | copy a cs ha ih =>
    rw [substitute_cons ha, occurrences_cons, occurrences_cons]
    by_cases hborder : a = '%' ∧ cs.head? = some code
    · rw [if_pos hborder, if_pos ⟨hborder.1, head?_substitute_of_head? hcode hborder.2⟩]
      omega
    · rw [if_neg hborder]
      omega

theorem lookup_concat_of_ne (hb : b ≠ code) :
    (before ++ [(code, text)]).lookup b = before.lookup b := by
  have hne : (b == code) = false := beq_eq_false_iff_ne.2 hb
  simp [List.lookup_append, List.lookup_cons, hne]

/-- Where a percent sign that is copied makes no code with what follows, it stays. -/
theorem replaceCode_substitute_cons (ha : a = '%' → ∀ b, cs.head? = some b → before.lookup b = none)
    (hborder : ¬(a = '%' ∧ cs.head? = some code))
    (hmade : ¬(a = '%' ∧ (substitute before cs).head? = some code))
    (hcs : replaceCode code text.toList (substitute before cs) =
      substitute (before ++ [(code, text)]) cs) :
    replaceCode code text.toList (a :: substitute before cs) =
      substitute (before ++ [(code, text)]) (a :: cs) := by
  have hafter : a = '%' → ∀ b, cs.head? = some b →
      (before ++ [(code, text)]).lookup b = none := by
    intro hpercent b hb
    have hne : b ≠ code := by
      rintro rfl
      exact hborder ⟨hpercent, hb⟩
    rw [lookup_concat_of_ne hne, ha hpercent b hb]
  rw [replaceCode_cons hmade, substitute_cons hafter, hcs]

/-- A code of the template that the passes before have copied is replaced. -/
theorem replaceCode_substitute_code (hcode : code ≠ '%') (hnew : before.lookup code = none)
    (hcs : replaceCode code text.toList (substitute before (code :: rest)) =
      substitute (before ++ [(code, text)]) (code :: rest)) :
    replaceCode code text.toList ('%' :: substitute before (code :: rest)) =
      substitute (before ++ [(code, text)]) ('%' :: code :: rest) := by
  have hcopy : ∀ codes : List (Char × String),
      substitute codes (code :: rest) = code :: substitute codes rest :=
    fun _ => substitute_cons fun hpercent => absurd hpercent hcode
  have hlookup : (before ++ [(code, text)]).lookup code = some text := by
    simp [List.lookup_append, hnew]
  rw [hcopy, hcopy, replaceCode_cons fun hpercent => hcode hpercent.1] at hcs
  rw [hcopy, replaceCode_code, substitute_code hlookup, (List.cons.inj hcs).2]

/-- **Replacing one more code is a pass for one more code**, as long as no more of them are there
than in the template. -/
theorem replaceCode_substitute (hpercent : before.lookup '%' = none) (hcode : code ≠ '%')
    (hnew : before.lookup code = none)
    (h : occurrences code (substitute before cs) = occurrences code cs) :
    replaceCode code text.toList (substitute before cs) =
      substitute (before ++ [(code, text)]) cs := by
  induction cs using pass_induction before with
  | nil => rfl
  | code b new rest hb ih =>
    -- Nothing of the code is in the new text, since all of it is in the rest of the template.
    have hle := le_occurrences_substitute hpercent hcode hnew rest
    have happend := le_occurrences_append code new.toList (substitute before rest)
    have hne : b ≠ code := by
      rintro rfl
      rw [hnew] at hb
      cases hb
    rw [substitute_code hb, occurrences_code hpercent hnew hb] at h
    rw [substitute_code hb, substitute_code ((lookup_concat_of_ne hne).trans hb),
      replaceCode_append (by omega), ih (by omega)]
  | copy a cs ha ih =>
    have hle := le_occurrences_substitute hpercent hcode hnew cs
    rw [substitute_cons ha, occurrences_cons, occurrences_cons] at h
    rw [substitute_cons ha]
    by_cases hborder : a = '%' ∧ cs.head? = some code
    · obtain ⟨rfl, hhead⟩ := hborder
      rw [if_pos ⟨rfl, head?_substitute_of_head? hcode hhead⟩, if_pos ⟨rfl, hhead⟩] at h
      have hcs := ih (by omega)
      obtain ⟨rest, rfl⟩ := List.head?_eq_some_iff.1 hhead
      exact replaceCode_substitute_code hcode hnew hcs
    · rw [if_neg hborder] at h
      have hmade : ¬(a = '%' ∧ (substitute before cs).head? = some code) := by
        intro hmade
        rw [if_pos hmade] at h
        omega
      rw [if_neg hmade] at h
      exact replaceCode_substitute_cons ha hborder hmade (ih (by omega))

/-! ## All codes -/

theorem replaceCodes_concat (before : List (Char × String)) (code : Char × String)
    (template : List Char) : replaceCodes (before ++ [code]) template =
      replaceCode code.1 code.2.toList (replaceCodes before template) :=
  List.foldl_append

/-- The codes that were replaced before are others. -/
theorem AreCodes.lookup_take (hcodes : AreCodes codes) (n : Fin codes.length) :
    (codes.take n).lookup '%' = none ∧ codes[n].1 ≠ '%' ∧
      (codes.take n).lookup codes[n].1 = none := by
  refine ⟨?_, hcodes.ne_percent _ (List.getElem_mem n.isLt), ?_⟩
  · refine List.lookup_eq_none_iff.2 fun code hmem => ?_
    simpa using (hcodes.ne_percent code (List.mem_of_mem_take hmem)).symm
  · refine List.lookup_eq_none_iff.2 fun code hmem => ?_
    obtain ⟨i, hi, rfl⟩ := List.mem_take_iff_getElem.1 hmem
    have hne := List.pairwise_iff_getElem.1 hcodes.distinct i n (by omega) n.isLt (by omega)
    simpa using hne.symm

/-- Up to the first code that is made, the text is that of a single pass. -/
theorem replaceCodes_take (hcodes : AreCodes codes) (n : Nat) (hn : n ≤ codes.length)
    (h : ∀ m : Fin codes.length, m < n → IsAsOften codes template m) :
    replaceCodes (codes.take n) template = substitute (codes.take n) template := by
  induction n with
  | zero => exact (substitute_nil template).symm
  | succ n ih =>
    obtain ⟨hpercent, hcode, hnew⟩ := hcodes.lookup_take ⟨n, hn⟩
    have hbefore := ih (Nat.le_of_succ_le hn) fun m hm => h m (Nat.lt_succ_of_lt hm)
    rw [List.take_succ_eq_append_getElem hn, replaceCodes_concat, hbefore]
    exact replaceCode_substitute hpercent hcode hnew (h ⟨n, hn⟩ (Nat.lt_succ_self n))

theorem replaceCodes_eq (hcodes : AreCodes codes) (h : Independent codes template) :
    replaceCodes codes template = substitute codes template := by
  have htake := replaceCodes_take hcodes codes.length (Nat.le_refl _) fun m _ => h m
  rwa [List.take_length] at htake

/-- If the codes are not independent, there is a step before which the text is still that of a
single pass, but has more of the code than the template. -/
theorem exists_made_code (hcodes : AreCodes codes) (h : ¬ Independent codes template) :
    ∃ n : Fin codes.length,
      replaceCodes (codes.take n) template = substitute (codes.take n) template ∧
      occurrences codes[n].1 template <
        occurrences codes[n].1 (substitute (codes.take n) template) := by
  obtain ⟨k, hk⟩ := not_forall.1 h
  obtain ⟨n, hn, hleast⟩ := WellFounded.has_min wellFounded_lt
    {n : Fin codes.length | ¬ IsAsOften codes template n} ⟨k, hk⟩
  have hleast (m : Fin codes.length) (hm : m < n) : IsAsOften codes template m :=
    Decidable.byContradiction fun hnot => hleast m hnot hm
  obtain ⟨hpercent, hcode, hnew⟩ := hcodes.lookup_take n
  refine ⟨n, replaceCodes_take hcodes n n.isLt.le hleast, ?_⟩
  exact Nat.lt_of_le_of_ne (le_occurrences_substitute hpercent hcode hnew template) (Ne.symm hn)

/-! ## Templates without doubt -/

theorem mem_of_lookup (h : codes.lookup b = some text) : (b, text) ∈ codes := by
  obtain ⟨front, back, rfl, -⟩ := List.lookup_eq_some_iff.1 h
  exact List.mem_append_right front List.mem_cons_self

theorem IsPlain.of_suffix (h : IsPlain codes template) (hsuffix : cs <:+ template) :
    IsPlain codes cs :=
  ⟨h.not_mem, fun code hmem hwithin => h.apart code hmem (hwithin.trans hsuffix.isInfix)⟩

theorem IsPlain.take (h : IsPlain codes template) (n : Nat) : IsPlain (codes.take n) template :=
  ⟨fun code hmem => h.not_mem code (List.mem_of_mem_take hmem),
    fun code hmem => h.apart code (List.mem_of_mem_take hmem)⟩

/-- What a pass puts after a percent sign that it copies is what the template has there, if that is
no percent sign. -/
theorem IsPlain.head?_of_head?_substitute (h : IsPlain before ('%' :: cs))
    (hhead : (substitute before cs).head? = some code) : cs.head? = some code := by
  cases cs with
  | nil => cases hhead
  | cons d rest =>
    have hcopy : d = '%' → ∀ b, rest.head? = some b → before.lookup b = none := by
      rintro rfl b hb
      rw [Option.eq_none_iff_forall_ne_some]
      intro text htext
      obtain ⟨more, rfl⟩ := List.head?_eq_some_iff.1 hb
      exact h.apart (b, text) (mem_of_lookup htext) ⟨[], more, rfl⟩
    rwa [substitute_cons hcopy] at hhead

theorem IsPlain.occurrences_substitute (h : IsPlain before cs) (hpercent : before.lookup '%' = none)
    (hcode : code ≠ '%') (hnew : before.lookup code = none) :
    occurrences code (substitute before cs) = occurrences code cs := by
  induction cs using pass_induction before with
  | nil => rfl
  | code b text rest hb ih =>
    have hrest : IsPlain before rest := h.of_suffix ⟨['%', b], rfl⟩
    rw [substitute_code hb, occurrences_append_of_not_mem (h.not_mem _ (mem_of_lookup hb)),
      occurrences_code hpercent hnew hb, ih hrest]
  | copy a cs ha ih =>
    have hborder : a = '%' ∧ (substitute before cs).head? = some code ↔
        a = '%' ∧ cs.head? = some code := by
      refine and_congr_right fun hpercent => ⟨fun hhead => ?_, head?_substitute_of_head? hcode⟩
      subst hpercent
      exact h.head?_of_head?_substitute hhead
    rw [substitute_cons ha, occurrences_cons, occurrences_cons, ih (h.of_suffix ⟨[a], rfl⟩)]
    simp only [hborder]

theorem independent_of_isPlain (hcodes : AreCodes codes) (h : IsPlain codes template) :
    Independent codes template := fun n => by
  obtain ⟨hpercent, hcode, hnew⟩ := hcodes.lookup_take n
  exact (h.take n).occurrences_substitute hpercent hcode hnew

/-! ## Prompts -/

theorem areCodes_codes (f : Facts) : AreCodes f.codes :=
  ⟨by simp [Facts.codes], by simp [Facts.codes]⟩

/-- **The prompt is that of a single pass**, from left to right, if no step makes a code that is
still to be replaced: if none of the texts has a percent sign and none stands in front of a code in
the template, for instance.  Else a step replaces a code that is none of the template. -/
theorem expand_singlePass (template : String) (f : Facts) :
    (Independent f.codes template.toList →
      expand template f = String.ofList (substitute f.codes template.toList)) ∧
    (¬ Independent f.codes template.toList → ∃ n : Fin f.codes.length,
      replaceCodes (f.codes.take n) template.toList =
        substitute (f.codes.take n) template.toList ∧
      occurrences f.codes[n].1 template.toList <
        occurrences f.codes[n].1 (replaceCodes (f.codes.take n) template.toList)) ∧
    (IsPlain f.codes template.toList → Independent f.codes template.toList) := by
  have hcodes := areCodes_codes f
  refine ⟨fun h => congrArg String.ofList (replaceCodes_eq hcodes h), fun h => ?_,
    independent_of_isPlain hcodes⟩
  obtain ⟨n, heq, hlt⟩ := exists_made_code hcodes h
  exact ⟨n, heq, heq ▸ hlt⟩

/-- A user with percent signs, one of them in front of a blank, percent signs in a row, and a code
that is a prefix of a word. -/
theorem expand_singlePass_percents :
    let f : Facts := ⟨"50% %u", "box", ⟨"/home/rex/a%h"⟩, some ⟨"/home/rex"⟩⟩
    Independent f.codes "%u %%x%hh %d%".toList ∧
      expand "%u %%x%hh %d%" f = "50% %u %%xboxh /home/rex/a%h%" := by
  intro f
  have h : Independent f.codes "%u %%x%hh %d%".toList := by decide +kernel
  refine ⟨h, ?_⟩
  rw [(expand_singlePass _ f).1 h]
  decide +kernel

/-- A user who is called like a code, and one whose name makes a code with the percent sign before
it, are taken for the host. -/
theorem expand_ne_singlePass :
    let f : Facts := ⟨"%h", "box", ⟨"/"⟩, none⟩
    let g : Facts := ⟨"hal", "box", ⟨"/"⟩, none⟩
    expand "%u" f = "box" ∧ String.ofList (substitute f.codes "%u".toList) = "%h" ∧
      expand "%%u" g = "boxal" ∧ String.ofList (substitute g.codes "%%u".toList) = "%hal" := by
  decide +kernel

end JsonShell.Prompt
