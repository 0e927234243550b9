import JsonShell.Loop.Basic
import JsonShell.Proofs.Loop.Scan
import JsonShell.Proofs.Variable.Expansion

/-!
# Loops are read as they are written

A loop can be written down from its parts (`Loop.text`).  Reading that text gives the parts back:
the header is read off word by word, and the body up to the brace that closes it, whatever quotes
and braces its commands hold, as long as each of them is a single command.
-/

set_option autoImplicit false

namespace JsonShell

/-- The word that a loop starts with. -/
def LoopKind.word : LoopKind → String
  | .counted => "forloop"
  | .listed => "foreach"

/-- A loop as it would be typed. -/
def Loop.text (l : Loop) : String :=
  l.kind.word ++ " " ++ l.source ++ " as $" ++ l.var ++ " do \x7b " ++ Text.join "; " l.body ++
    " \x7d"

/-! ## Headers -/

namespace Header

theorem skipBlanks?_space {rest : List Char}
    (h : ∀ c, rest.head? = some c → isBlank c = false) : skipBlanks? (' ' :: rest) = some rest := by
  have hspace : isBlank ' ' = true := by decide
  rw [skipBlanks?, if_pos hspace, Text.dropWhile_eq_self h]

theorem skipWord?_append (word : String) (rest : List Char) :
    skipWord? word (word.toList ++ rest) = some rest := by
  have hprefix : word.toList.isPrefixOf (word.toList ++ rest) = true := by simp
  rw [skipWord?, if_pos hprefix, List.drop_left]

theorem binder?_text {var : List Char} (hvar : IsNameChars var) (after : List Char) :
    binder? (" as $".toList ++ (var ++ (" do \x7b".toList ++ after))) = some (var, after) := by
  have hends : EndsName (" do \x7b".toList ++ after) := by
    rintro c ⟨⟩
    decide
  have hname := Reference.leadingName_append hvar hends
  have has : skipBlanks? (" as $".toList ++ (var ++ (" do \x7b".toList ++ after))) =
      some ("as".toList ++ (" $".toList ++ (var ++ (" do \x7b".toList ++ after)))) :=
    skipBlanks?_space (by rintro c ⟨⟩; decide)
  have hdollar : skipBlanks? (" $".toList ++ (var ++ (" do \x7b".toList ++ after))) =
      some ("$".toList ++ (var ++ (" do \x7b".toList ++ after))) :=
    skipBlanks?_space (by rintro c ⟨⟩; decide)
  have hdo : skipBlanks? (" do \x7b".toList ++ after) =
      some ("do".toList ++ (" \x7b".toList ++ after)) :=
    skipBlanks?_space (by rintro c ⟨⟩; decide)
  have hbrace : (" \x7b".toList ++ after).dropWhile isBlank = "\x7b".toList ++ after := rfl
  rw [binder?, has]
  simp only [Option.bind_eq_bind, Option.bind_some, skipWord?_append, hdollar, hname,
    List.drop_left, hdo, hbrace, List.isEmpty_iff, hvar.ne_nil, if_false]
  rfl

theorem counted?_text {source var : List Char} (hne : source ≠ [])
    (hsource : ∀ c ∈ source, isBlank c = false) (hvar : IsNameChars var) (after : List Char) :
    counted? ("forloop ".toList ++
        (source ++ (" as $".toList ++ (var ++ (" do \x7b".toList ++ after))))) =
      some ⟨source, var, after⟩ := by
  have hblanks : skipBlanks? (" ".toList ++
      (source ++ (" as $".toList ++ (var ++ (" do \x7b".toList ++ after))))) =
        some (source ++ (" as $".toList ++ (var ++ (" do \x7b".toList ++ after)))) := by
    refine skipBlanks?_space fun c hc => ?_
    obtain ⟨d, rest, rfl⟩ := List.exists_cons_of_ne_nil hne
    obtain rfl : d = c := Option.some.inj hc
    exact hsource d List.mem_cons_self
  have hword : (source ++ (" as $".toList ++ (var ++ (" do \x7b".toList ++ after)))).takeWhile
      (!isBlank ·) = source := by
    rw [List.takeWhile_append_of_pos fun c hc => by rw [hsource c hc]; rfl]
    exact List.append_nil source
  have hstart : ("forloop ".toList ++ (source ++ (" as $".toList ++ (var ++
      (" do \x7b".toList ++ after))))).dropWhile isBlank = "forloop".toList ++ (" ".toList ++
        (source ++ (" as $".toList ++ (var ++ (" do \x7b".toList ++ after))))) := rfl
  rw [counted?, hstart]
  simp only [Option.bind_eq_bind, Option.bind_some, skipWord?_append, hblanks, hword,
    List.drop_left, binder?_text hvar]
  rfl

end Header

/-! ## Bodies -/

namespace Body

/-- The commands of a body with semicolons between them, and a space at both ends. -/
def spaced : List (List Char) → List Char
  | [] => [' ', ' ']
  | c :: rest => ' ' :: c ++ (rest.flatMap fun d => "; ".toList ++ d) ++ [' ']

theorem steps_separated {rest : List (List Char)} (h : ∀ c ∈ rest, IsCommand c) :
    Steps true 0 false (rest.flatMap fun d => "; ".toList ++ d) 0 false := by
  induction rest with
  | nil => exact .nil 0 false
  | cons d rest ih =>
    have hseparator : Steps true 0 false "; ".toList 0 false :=
      .cons (.separated 0 (.inl rfl))
        (.cons (.other 0 (by decide) (by decide) (by decide) (by decide)) (.nil 0 false))
    rw [List.flatMap_cons]
    exact (hseparator.append (h d List.mem_cons_self).whole.allowing).append
      (ih fun e he => h e (List.mem_cons_of_mem d he))

/-- Steps lead through a body. -/
theorem steps_spaced {commands : List (List Char)} (h : ∀ c ∈ commands, IsCommand c) :
    Steps true 0 false (spaced commands) 0 false := by
  have hspace : Steps true 0 false [' '] 0 false :=
    steps_singleton (.other 0 (by decide) (by decide) (by decide) (by decide))
  cases commands with
  | nil => exact hspace.append hspace
  | cons c rest =>
    have hfirst := hspace.append (h c List.mem_cons_self).whole.allowing
    have hrest := steps_separated fun d hd => h d (List.mem_cons_of_mem c hd)
    exact (hfirst.append hrest).append hspace

theorem close?_spaced {commands : List (List Char)} (h : ∀ c ∈ commands, IsCommand c)
    (after : List Char) :
    close? 0 false (spaced commands ++ '}' :: after) = some (spaced commands, after) := by
  have hclose : close? 0 false ('}' :: after) = some ([], after) := by simp [close?]
  rw [(steps_spaced h).close?_append, hclose, Option.map_some, List.append_nil]

/-- The pieces of a body are its commands, but for the spaces around them. -/
theorem map_trim_pieces {rest : List (List Char)} {c : List Char} (hc : IsCommand c)
    (hrest : ∀ d ∈ rest, IsCommand d) :
    (pieces 0 false (spaced (c :: rest))).map Text.trimChars = c :: rest := by
  have hspace : Steps false 0 false [' '] 0 false :=
    steps_singleton (.other 0 (by decide) (by decide) (by decide) (by decide))
  have hfirst := hspace.append hc.whole
  have hblank : ∀ e ∈ [' '], isBlank e := List.forall_mem_singleton.2 (by decide)
  have htrim : ∀ after : List Char, (∀ e ∈ after, isBlank e) →
      Text.trimChars ([' '] ++ c ++ after) = c := fun after hafter =>
    Text.stripChars_append hblank hafter hc.ne_nil hc.trimmed
  cases rest with
  | nil =>
    have hend : pieces 0 false [' '] = [[' ']] := by simp [pieces, Text.consFirst]
    rw [spaced, List.flatMap_nil, List.append_nil]
    show (pieces 0 false ([' '] ++ c ++ [' '])).map Text.trimChars = [c]
    rw [hfirst.pieces_append, hend, Text.foldr_consFirst, List.map_singleton, htrim _ hblank]
  | cons d rest =>
    have hspaced : spaced (c :: d :: rest) = [' '] ++ c ++ ';' :: spaced (d :: rest) := by
      simp [spaced]
    have hcut : pieces 0 false (';' :: spaced (d :: rest)) =
        [] :: pieces 0 false (spaced (d :: rest)) := by simp [pieces]
    obtain ⟨hd, hrest⟩ := List.forall_mem_cons.1 hrest
    rw [hspaced, hfirst.pieces_append, hcut, Text.foldr_consFirst, List.map_cons,
      htrim [] (List.forall_mem_nil _), map_trim_pieces hd hrest]

theorem commands_spaced {commands : List (List Char)} (h : ∀ c ∈ commands, IsCommand c) :
    Body.commands (spaced commands) = commands := by
  cases commands with
  | nil => rfl
  | cons c rest =>
    rw [Body.commands, map_trim_pieces (h c List.mem_cons_self)
      fun d hd => h d (List.mem_cons_of_mem c hd)]
    refine List.filter_eq_self.2 fun d hd => ?_
    rw [Bool.not_eq_true', List.isEmpty_eq_false_iff]
    exact (h d hd).ne_nil

theorem spaced_map_toList (commands : List String) :
    spaced (commands.map String.toList) = ' ' :: (Text.join "; " commands).toList ++ [' '] := by
  cases commands with
  | nil => rfl
  | cons c rest =>
    rw [List.map_cons, spaced, Text.toList_join_cons, List.flatMap_map]
    rfl

end Body

/-! ## Loops -/

namespace Loop

theorem toList_text (l : Loop) :
    l.text.toList = l.kind.word.toList ++ ' ' :: (l.source.toList ++ (" as $".toList ++
      (l.var.toList ++ (" do \x7b".toList ++
        (Body.spaced (l.body.map String.toList) ++ ['}']))))) := by
  rw [Body.spaced_map_toList]
  simp [Loop.text]

theorem toList_text_counted (source var : String) (body : List String) :
    (Loop.text ⟨.counted, source, var, body⟩).toList =
      "forloop ".toList ++ (source.toList ++ (" as $".toList ++ (var.toList ++
        (" do \x7b".toList ++ (Body.spaced (body.map String.toList) ++ ['}']))))) := by
  rw [toList_text]
  show "forloop".toList ++ ' ' :: _ = _
  rfl

/-- No blanks are around a loop. -/
theorem trimChars_text_counted (source var : String) (body : List String) :
    Text.trimChars (Loop.text ⟨.counted, source, var, body⟩).toList =
      (Loop.text ⟨.counted, source, var, body⟩).toList := by
  rw [toList_text_counted]
  refine Text.stripChars_eq_self ?_ fun c hc => ?_
  · rintro c ⟨⟩
    decide
  · simp only [← List.append_assoc, List.getLast?_concat, Option.some.injEq] at hc
    rw [← hc]
    decide

/-- A loop is read as it is written if its header is. -/
theorem parse?_text_of_header {l : Loop}
    (hheader : header? l.text.toList = some (l.kind, ⟨l.source.toList, l.var.toList,
      Body.spaced (l.body.map String.toList) ++ ['}']⟩))
    (htrim : Text.trimChars l.source.toList = l.source.toList)
    (hbody : ∀ c ∈ l.body, Body.IsCommand c.toList) : parse? l.text = some l := by
  have hcommands : ∀ c ∈ l.body.map String.toList, Body.IsCommand c := List.forall_mem_map.2 hbody
  rw [parse?, hheader]
  dsimp only
  rw [Body.close?_spaced hcommands []]
  dsimp only
  rw [if_pos (by rfl), Body.commands_spaced hcommands, htrim]
  simp

/-- **A loop over a range is read as it is written.** -/
theorem parse?_text_counted {source var : String} {body : List String} (hne : source.toList ≠ [])
    (hsource : ∀ c ∈ source.toList, isBlank c = false) (hvar : IsNameChars var.toList)
    (hbody : ∀ c ∈ body, Body.IsCommand c.toList) :
    parse? (Loop.text ⟨.counted, source, var, body⟩) = some ⟨.counted, source, var, body⟩ := by
  refine parse?_text_of_header ?_ ?_ hbody
  · rw [toList_text_counted, header?, Header.counted?_text hne hsource hvar]
  · exact Text.stripChars_eq_self (fun c hc => hsource c (List.mem_of_mem_head? hc))
      (fun c hc => hsource c (List.mem_of_mem_getLast? hc))

theorem plain_of_isNameChar {c : Char} (h : isNameChar c = true) :
    c ≠ '"' ∧ c ≠ '{' ∧ c ≠ '}' ∧ c ≠ ';' := by
  refine ⟨?_, ?_, ?_, ?_⟩ <;> rintro rfl <;> exact absurd h (by decide)

end Loop

end JsonShell
