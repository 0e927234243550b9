import JsonShell.Proofs.Loop.Printing
import JsonShell.Proofs.Variable.Assignment
import JsonShell.Session.Command

/-!
# What plain lines are read as

A line that starts with a word of name characters and a space is no loop, unless that word starts
one (`Loop.parse?_eq_none`), and mostly no assignment either (`Assignment.parse?_eq_none`).  So bare
words are read as a call (`Command.ofLine_words`), and a loop over a range as that loop
(`Command.ofLine_text_counted`).  The other way round, a line that is a call calls with its words
(`Command.of_ofLine_eq_call`).
-/

set_option autoImplicit false

namespace JsonShell

/-! ## Loops -/

namespace Loop

/-- **A word and a space start no loop**, unless the word is that of a loop. -/
theorem parse?_eq_none {name rest : List Char} {line : String}
    (hline : line.toList = name ++ ' ' :: rest) (hname : IsNameChars name)
    (hcounted : name ≠ "forloop".toList) (hlisted : name ≠ "foreach".toList) :
    parse? line = none := by
  have hstart : (name ++ ' ' :: rest).dropWhile isBlank = name ++ ' ' :: rest :=
    Text.dropWhile_eq_self (hname.isBlank_head _)
  have hends : EndsName (' ' :: rest) := endsName_cons (by decide) rest
  have hword : ∀ word : String, name ≠ word.toList → IsNameChars word.toList →
      Header.skipWord? word (name ++ ' ' :: rest) = none ∨
        ∃ c tail, Header.skipWord? word (name ++ ' ' :: rest) = some (c :: tail) ∧
          isBlank c = false := by
    intro word hne hchars
    rw [Header.skipWord?]
    split
    · rename_i hprefix
      obtain ⟨c, tail, hdrop, hblank⟩ :=
        hname.not_isBlank_after_part hchars hne hends (List.isPrefixOf_iff_prefix.1 hprefix)
      exact .inr ⟨c, tail, by rw [hdrop], hblank⟩
    · exact .inl rfl
  have hcounted? : Header.counted? (name ++ ' ' :: rest) = none := by
    rw [Header.counted?, hstart]
    rcases hword "forloop" hcounted (by decide) with h | ⟨c, tail, h, hblank⟩
    · rw [h]
      rfl
    · have hskip : Header.skipBlanks? (c :: tail) = none := by
        rw [Header.skipBlanks?, hblank]
        rfl
      rw [h, Option.bind_eq_bind, Option.bind_some, hskip]
      rfl
  have hlisted? : Header.listed? (name ++ ' ' :: rest) = none := by
    rw [Header.listed?, hstart]
    rcases hword "foreach" hlisted (by decide) with h | ⟨c, tail, h, hblank⟩
    · rw [h]
      rfl
    · rw [h, Option.bind_eq_bind, Option.bind_some,
        List.takeWhile_cons_of_neg (by rw [hblank]; exact Bool.false_ne_true)]
      rfl
  rw [parse?, header?, hline, hcounted?, hlisted?]
  rfl

end Loop

/-! ## Lines -/

/-- The text is read as an argument of a call, wherever it stands. -/
structure IsArgument (w : List Char) : Prop where
  ne_nil : w ≠ []
  plain : ∀ c ∈ w, isBlank c = false ∧ c ≠ '"' ∧ c ≠ '|'
  /-- It cannot be taken for a binding after the first word. -/
  free : BindsNothing w

theorem IsArgument.isWordValue {w : List Char} (h : IsArgument w) : IsWordValue w :=
  ⟨h.ne_nil, fun c hc => ⟨(h.plain c hc).1, (h.plain c hc).2.1⟩⟩

theorem IsArgument.isBare {w : List Char} (h : IsArgument w) : Token.IsBare w :=
  h.isWordValue.isBare

namespace Command

/-- **A loop over a range is read as a loop.** -/
theorem ofLine_text_counted {files : FileTree} {source var : String} {body : List String}
    (hne : source.toList ≠ []) (hsource : ∀ c ∈ source.toList, isBlank c = false)
    (hfree : BindsNothing source.toList) (hvar : IsNameChars var.toList)
    (hbody : ∀ c ∈ body, Body.IsCommand c.toList)
    (hfile : files.isFile ⟨Loop.text ⟨.counted, source, var, body⟩⟩ = false) :
    Command.ofLine files (Loop.text ⟨.counted, source, var, body⟩) =
      .loop ⟨.counted, source, var, body⟩ := by
  have hforloop : IsNameChars "forloop".toList := isNameChars_of_isName (by decide)
  have hrest : BindsNothing (source.toList ++ (" as $".toList ++ (var.toList ++
      (" do \x7b".toList ++ (Body.spaced (body.map String.toList) ++ ['}']))))) :=
    hfree.append hne _
  have hchars : (Loop.text ⟨.counted, source, var, body⟩).toList =
      "forloop".toList ++ ' ' :: (source.toList ++ (" as $".toList ++ (var.toList ++
        (" do \x7b".toList ++ (Body.spaced (body.map String.toList) ++ ['}']))))) := by
    rw [Loop.toList_text_counted]
    rfl
  have htrim : Text.trim (Loop.text ⟨.counted, source, var, body⟩) =
      Loop.text ⟨.counted, source, var, body⟩ := by
    rw [Text.trim, Loop.trimChars_text_counted, String.ofList_toList]
  have hempty : Loop.text ⟨.counted, source, var, body⟩ ≠ "" := by
    intro h
    rw [h] at hchars
    cases hchars
  simp only [ofLine, htrim, if_neg hempty, hfile, Bool.false_eq_true, if_false]
  rw [Assignment.parse?_eq_none hchars hforloop (by decide) (by decide) hrest,
    Loop.parse?_text_counted hne hsource hvar hbody]

end Command

/-! ## Lines that are calls -/

namespace Command

variable {files : FileTree} {line name : String} {args : List String}

theorem eq_of_ofWords_eq_call {words : List String} (h : ofWords words = .call name args) :
    words = name :: args := by
  cases words with
  | nil => cases h
  | cons word rest =>
    rw [ofWords] at h
    split at h
    · cases h
    · obtain ⟨rfl, rfl⟩ := Command.call.inj h
      rfl

/-- A line that is a call has its name and its arguments for words, and is no loop. -/
theorem of_ofLine_eq_call (h : ofLine files line = .call name args) :
    tokenize (Text.trim line) = name :: args ∧ Loop.parse? (Text.trim line) = none := by
  rw [ofLine] at h
  split at h
  · cases h
  · split at h
    · cases h
    · split at h
      · cases h
      · split at h
        · cases h
        · rename_i hloop
          split at h
          · cases h
          · exact ⟨eq_of_ofWords_eq_call h, hloop⟩

end Command

end JsonShell
