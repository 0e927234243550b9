import JsonShell.Proofs.Loop.Balance
import JsonShell.Proofs.Loop.Printing

/-!
# Loops over anything are read as they are written

`Loop.parse?_text_counted` reads back loops over ranges.  Loops over lists are harder: their source
is any text up to the first place from which the header can go on, and the source may hold words
that look like the end of a header.  But no header goes on without its brace.  So as long as the
source has no brace, there is only one place (`Header.binder?_eq_none`), and the loop is read back
as well (`Loop.parse?_text`).
-/

set_option autoImplicit false

namespace JsonShell

/-- What is before the first occurrence of a character is determined by the whole text. -/
theorem Text.before_unique {c : Char} {xs xs' ys ys' : List Char} (hxs : c ∉ xs) (hxs' : c ∉ xs')
    (h : xs ++ c :: ys = xs' ++ c :: ys') : xs = xs' := by
  induction xs generalizing xs' with
  | nil =>
    cases xs' with
    | nil => rfl
    | cons d xs' => exact absurd (List.cons.inj h).1 (List.ne_of_not_mem_cons hxs')
  | cons d xs ih =>
    cases xs' with
    | nil => exact absurd (List.cons.inj h).1.symm (List.ne_of_not_mem_cons hxs)
    | cons d' xs' =>
      obtain ⟨rfl, hrest⟩ := List.cons.inj h
      rw [ih (List.not_mem_of_not_mem_cons hxs) (List.not_mem_of_not_mem_cons hxs') hrest]

/-- And so is what is before the last one. -/
theorem Text.before_last_unique {c : Char} {xs xs' ys ys' : List Char} (hys : c ∉ ys)
    (hys' : c ∉ ys') (h : xs ++ c :: ys = xs' ++ c :: ys') : xs = xs' := by
  have hreverse : ys.reverse ++ c :: xs.reverse = ys'.reverse ++ c :: xs'.reverse := by
    have hboth := congrArg List.reverse h
    simpa using hboth
  have hends : ys.reverse = ys'.reverse :=
    before_unique (mt List.mem_reverse.1 hys) (mt List.mem_reverse.1 hys') hreverse
  rw [hends] at hreverse
  exact List.reverse_inj.1 (List.cons.inj (List.append_cancel_left hreverse)).2

/-! ## Headers over lists -/

namespace Header

variable {cs rest source var name after : List Char}

theorem skipBlanks?_inv (h : skipBlanks? cs = some rest) :
    ∃ blanks, (∀ c ∈ blanks, isBlank c = true) ∧ cs = blanks ++ rest := by
  cases cs with
  | nil => cases h
  | cons c cs =>
    rw [skipBlanks?] at h
    split at h
    · rename_i hc
      obtain rfl := Option.some.inj h
      refine ⟨c :: cs.takeWhile isBlank, ?_, ?_⟩
      · exact List.forall_mem_cons.2 ⟨hc, List.all_eq_true.1 List.all_takeWhile⟩
      · rw [List.cons_append, List.takeWhile_append_dropWhile]
    · cases h

theorem skipWord?_inv {word : String} (h : skipWord? word cs = some rest) :
    cs = word.toList ++ rest := by
  rw [skipWord?] at h
  split at h
  · rename_i hprefix
    obtain ⟨tail, rfl⟩ := List.isPrefixOf_iff_prefix.1 hprefix
    rw [List.drop_left] at h
    rw [Option.some.inj h]
  · cases h

/-- The end of a header: blanks around `as`, a dollar sign, and a brace, with neither of the two in
between. -/
theorem binder?_inv (h : binder? cs = some (name, after)) :
    ∃ before between gap, (∀ c ∈ before, isBlank c = true) ∧ (∀ c ∈ between, isBlank c = true) ∧
      '$' ∉ gap ∧ '{' ∉ gap ∧
      cs = before ++ ("as".toList ++ (between ++ '$' :: (gap ++ '{' :: after))) := by
  simp only [binder?, Option.bind_eq_bind, Option.bind_eq_some_iff] at h
  obtain ⟨cs₁, h₁, cs₂, h₂, cs₃, h₃, cs₄, h₄, h⟩ := h
  by_cases hempty : (Reference.leadingName cs₄).isEmpty
  · rw [if_pos hempty] at h
    cases h
  rw [if_neg hempty] at h
  simp only [Option.bind_eq_some_iff] at h
  obtain ⟨cs₅, h₅, cs₆, h₆, cs₇, h₇, hresult⟩ := h
  obtain ⟨rfl, rfl⟩ := Prod.mk.inj (Option.some.inj hresult)
  obtain ⟨before, hbefore, rfl⟩ := skipBlanks?_inv h₁
  obtain ⟨between, hbetween, rfl⟩ := skipBlanks?_inv h₃
  obtain ⟨blanks, hblanks, hdrop⟩ := skipBlanks?_inv h₅
  obtain rfl := skipWord?_inv h₂
  obtain rfl := skipWord?_inv h₄
  obtain rfl := skipWord?_inv h₆
  have hbrace := skipWord?_inv h₇
  have hend : cs₆ = cs₆.takeWhile isBlank ++ '{' :: cs₇ := by
    rw [← List.singleton_append, ← show _ = ['{'] ++ cs₇ from hbrace,
      List.takeWhile_append_dropWhile]
  have hcs : cs₄ = Reference.leadingName cs₄ ++ blanks ++ "do".toList ++ cs₆.takeWhile isBlank ++
      '{' :: cs₇ := by
    rw [List.append_assoc, ← hend, List.append_assoc, List.append_assoc, ← hdrop,
      Reference.leadingName_append_drop]
  have hgap : ∀ c, isNameChar c = false → isBlank c = false → c ∉ "do".toList →
      c ∉ Reference.leadingName cs₄ ++ blanks ++ "do".toList ++ cs₆.takeWhile isBlank := by
    intro c hchar hblank hdo h
    simp only [List.mem_append, or_assoc] at h
    rcases h with h | h | h | h
    · rw [Reference.isNameChar_of_mem_leadingName h] at hchar
      cases hchar
    · rw [hblanks c h] at hblank
      cases hblank
    · exact hdo h
    · rw [List.all_eq_true.1 List.all_takeWhile c h] at hblank
      cases hblank
  refine ⟨before, between, _, hbefore, hbetween, hgap '$' (by decide) (by decide) (by decide),
    hgap '{' (by decide) (by decide) (by decide), ?_⟩
  rw [← hcs]
  rfl

/-- A header that goes on earlier than where it was written would have no brace. -/
theorem binder?_eq_none (hne : source ≠ [])
    (hlast : ∀ c, source.getLast? = some c → isBlank c = false) (hbrace : '{' ∉ source)
    (hvar : IsNameChars var) (after : List Char) :
    binder? (source ++ (" as $".toList ++ (var ++ (" do \x7b".toList ++ after)))) = none := by
  cases h : binder? (source ++ (" as $".toList ++ (var ++ (" do \x7b".toList ++ after)))) with
  | none => rfl
  | some found =>
    obtain ⟨before, between, gap, hbefore, hbetween, hdollar, hgap, heq⟩ := binder?_inv h
    have hplain : ∀ {d : Char}, isBlank d = false → ∀ cs : List Char,
        (∀ c ∈ cs, isBlank c = true) → d ∉ cs := by
      intro d hd cs hcs h
      rw [hcs d h] at hd
      cases hd
    -- Both texts are cut at their first brace, and what is before it at its last dollar sign.
    have hheader : source ++ " as ".toList ++ '$' :: (var ++ " do ".toList) =
        before ++ "as".toList ++ between ++ '$' :: gap := by
      refine Text.before_unique (c := '{') ?_ ?_
        (show _ ++ '{' :: after = _ ++ '{' :: found.2 from ?_)
      · simp [hbrace, hvar.not_mem (c := '{') (by decide)]
      · simp [hgap, hplain (d := '{') (by decide) _ hbefore,
          hplain (d := '{') (by decide) _ hbetween]
      · simpa using heq
    have hsource : source ++ " as ".toList = before ++ "as".toList ++ between :=
      Text.before_last_unique (by simp [hvar.not_mem (c := '$') (by decide)]) hdollar hheader
    -- Read from the right, both texts have blanks and then the same word.
    have hreverse : ' ' :: source.reverse = before.reverse := by
      have hboth := congrArg (fun cs => cs.reverse.dropWhile isBlank) hsource
      simp only [List.reverse_append] at hboth
      rw [List.dropWhile_append_of_pos fun c hc => hbetween c (List.mem_reverse.1 hc)] at hboth
      exact List.append_cancel_left (show "sa".toList ++ _ = "sa".toList ++ _ from hboth)
    obtain ⟨init, last, rfl⟩ := List.eq_nil_or_concat source |>.resolve_left hne
    have hblank : isBlank last = true := by
      refine hbefore last (List.mem_reverse.1 ?_)
      rw [← hreverse]
      simp
    rw [hlast last (by simp)] at hblank
    cases hblank

theorem shortestSource?_text (hne : source ≠ [])
    (hlast : ∀ c, source.getLast? = some c → isBlank c = false) (hbrace : '{' ∉ source)
    (hvar : IsNameChars var) (after : List Char) :
    shortestSource? (source ++ (" as $".toList ++ (var ++ (" do \x7b".toList ++ after)))) =
      some ⟨source, var, after⟩ := by
  induction source with
  | nil => exact absurd rfl hne
  | cons c rest ih =>
    rw [List.cons_append, shortestSource?]
    cases hrest : rest with
    | nil => rw [List.nil_append, binder?_text hvar]
    | cons d more =>
      have hrestne : rest ≠ [] := by simp [hrest]
      have hrestlast : ∀ c, rest.getLast? = some c → isBlank c = false := by
        intro e he
        refine hlast e ?_
        rw [List.getLast?_cons_of_ne_nil hrestne, he]
      have hrestbrace := List.not_mem_of_not_mem_cons hbrace
      rw [← hrest, binder?_eq_none hrestne hrestlast hrestbrace hvar after,
        ih hrestne hrestlast hrestbrace]
      rfl

/-- The header of a loop over a list is read as it is written. -/
theorem listed?_text (hne : source ≠ []) (htrim : Text.trimChars source = source)
    (hbrace : '{' ∉ source) (hvar : IsNameChars var) (after : List Char) :
    listed? ("foreach ".toList ++
        (source ++ (" as $".toList ++ (var ++ (" do \x7b".toList ++ after))))) =
      some ⟨source, var, after⟩ := by
  have hhead : ∀ c, source.head? = some c → isBlank c = false :=
    fun c hc => Text.not_of_head?_stripChars (htrim ▸ hc)
  have hlast : ∀ c, source.getLast? = some c → isBlank c = false :=
    fun c hc => Text.not_of_getLast?_stripChars (htrim ▸ hc)
  have hstart : ("foreach ".toList ++ (source ++ (" as $".toList ++ (var ++
      (" do \x7b".toList ++ after))))).dropWhile isBlank = "foreach".toList ++ (" ".toList ++
        (source ++ (" as $".toList ++ (var ++ (" do \x7b".toList ++ after))))) := rfl
  have hblanks : ((" ".toList ++ (source ++ (" as $".toList ++ (var ++
      (" do \x7b".toList ++ after))))).takeWhile isBlank).length = 1 := by
    obtain ⟨c, rest, rfl⟩ := List.exists_cons_of_ne_nil hne
    have hc : isBlank c = false := hhead c rfl
    show ((' ' :: c :: _).takeWhile isBlank).length = 1
    rw [List.takeWhile_cons_of_pos (by decide), List.takeWhile_cons_of_neg (by simp [hc])]
    rfl
  have hafter : sourceAfter? 1 (" ".toList ++ (source ++ (" as $".toList ++ (var ++
      (" do \x7b".toList ++ after))))) = some ⟨source, var, after⟩ := by
    have hdrop : (" ".toList ++ (source ++ (" as $".toList ++ (var ++
        (" do \x7b".toList ++ after))))).drop (0 + 1) =
          source ++ (" as $".toList ++ (var ++ (" do \x7b".toList ++ after))) := rfl
    rw [sourceAfter?, hdrop, shortestSource?_text hne hlast hbrace hvar]
  rw [listed?, hstart]
  simp only [Option.bind_eq_bind, Option.bind_some, skipWord?_append, hblanks, hafter]

end Header

/-! ## All loops -/

/-- What the source of a loop of this kind can be written as: a word, or any text that has no blanks
at its ends and no brace. -/
def LoopKind.Admits (kind : LoopKind) (source : String) : Prop :=
  source ≠ "" ∧
    match kind with
    | .counted => ∀ c ∈ source.toList, isBlank c = false
    | .listed => Text.trim source = source ∧ '{' ∉ source.toList

instance : ∀ (kind : LoopKind) (source : String), Decidable (kind.Admits source)
  | .counted, source =>
    decidable_of_iff (source ≠ "" ∧ source.toList.all (!isBlank ·))
      (and_congr_right fun _ => by simp [List.all_eq_true])
  | .listed, source =>
    inferInstanceAs (Decidable (source ≠ "" ∧ Text.trim source = source ∧ '{' ∉ source.toList))

namespace Loop

theorem toList_text_listed (source var : String) (body : List String) :
    (Loop.text ⟨.listed, source, var, body⟩).toList =
      "foreach ".toList ++ (source.toList ++ (" as $".toList ++ (var.toList ++
        (" do \x7b".toList ++ (Body.spaced (body.map String.toList) ++ ['}']))))) := by
  rw [toList_text]
  show "foreach".toList ++ ' ' :: _ = _
  rfl

theorem parse?_text_listed {source var : String} {body : List String} (hne : source.toList ≠ [])
    (htrim : Text.trimChars source.toList = source.toList) (hbrace : '{' ∉ source.toList)
    (hvar : IsNameChars var.toList) (hbody : ∀ c ∈ body, Body.IsCommand c.toList) :
    parse? (Loop.text ⟨.listed, source, var, body⟩) = some ⟨.listed, source, var, body⟩ := by
  refine parse?_text_of_header ?_ htrim hbody
  have hcounted : Header.counted? (Loop.text ⟨.listed, source, var, body⟩).toList = none := by
    rw [toList_text_listed]
    rfl
  rw [header?, hcounted, toList_text_listed, Header.listed?_text hne htrim hbrace hvar]
  rfl

/-- **Reading a loop undoes writing it**: any loop whose variable has a name, whose source is one
that can be written, and whose commands are single commands. -/
theorem parse?_text {l : Loop} (hvar : isName l.var = true) (hsource : l.kind.Admits l.source)
    (hbody : ∀ c ∈ l.body, Body.IsSingle c.toList) : parse? l.text = some l := by
  obtain ⟨kind, source, var, body⟩ := l
  have hcommands : ∀ c ∈ body, Body.IsCommand c.toList :=
    fun c hc => Body.isCommand_iff.2 (hbody c hc)
  have hne : source.toList ≠ [] := fun h => hsource.1 (String.toList_eq_nil_iff.1 h)
  cases kind with
  | counted => exact parse?_text_counted hne hsource.2 (isNameChars_of_isName hvar) hcommands
  | listed =>
    exact parse?_text_listed hne (Text.trimChars_toList hsource.2.1) hsource.2.2
      (isNameChars_of_isName hvar) hcommands

/-- The source has what looks like the end of a header, and the body a loop and quotes with braces
and semicolons in them. -/
theorem parse?_text_lookalike :
    isName "z" = true ∧ LoopKind.listed.Admits "[a as $x do; b] as $y" ∧
      (∀ c ∈ ["forloop 2 as $j do \x7b say \"\x7d ;\"; b $j \x7d", "c \"\x7b\""],
        Body.IsSingle c.toList) ∧
      parse? ("foreach [a as $x do; b] as $y as $z do " ++
        "\x7b forloop 2 as $j do \x7b say \"\x7d ;\"; b $j \x7d; c \"\x7b\" \x7d") =
        some ⟨.listed, "[a as $x do; b] as $y", "z",
          ["forloop 2 as $j do \x7b say \"\x7d ;\"; b $j \x7d", "c \"\x7b\""]⟩ := by
  have hvar : isName "z" = true := by decide
  have hsource : LoopKind.listed.Admits "[a as $x do; b] as $y" := by decide +kernel
  have hbody : ∀ c ∈ ["forloop 2 as $j do \x7b say \"\x7d ;\"; b $j \x7d", "c \"\x7b\""],
      Body.IsSingle c.toList := by decide +kernel
  have htext : Loop.text ⟨.listed, "[a as $x do; b] as $y", "z",
      ["forloop 2 as $j do \x7b say \"\x7d ;\"; b $j \x7d", "c \"\x7b\""]⟩ =
        "foreach [a as $x do; b] as $y as $z do " ++
          "\x7b forloop 2 as $j do \x7b say \"\x7d ;\"; b $j \x7d; c \"\x7b\" \x7d" := by
    decide +kernel
  refine ⟨hvar, hsource, hbody, ?_⟩
  rw [← htext]
  exact parse?_text (l := ⟨.listed, _, _, _⟩) hvar hsource hbody

end Loop

end JsonShell
