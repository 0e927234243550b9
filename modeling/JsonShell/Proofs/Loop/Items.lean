import JsonShell.Pipeline.Head
import JsonShell.Proofs.Line.Quoting
import JsonShell.Proofs.Loop.Quotes
import JsonShell.Proofs.Text.Split
import JsonShell.Proofs.Text.Trim

/-!
# Lists are read back

A list can be written down in two ways.  In brackets its items are words, so that in double quotes
they may be anything without double quotes (`listItems_brackets`); the head of a pipeline that is
written so is the list of the same items (`Head.parse_brackets`).  With pipes between them its items
may have quotes of their own, and only the pair at the ends is taken off (`listItems_join`).

Both readings look at the ends of the whole text first.  They are brackets or quotes here, which are
not blank, and so nothing is trimmed that belongs to an item.
-/

set_option autoImplicit false

namespace JsonShell

/-! ## Items in brackets -/

namespace Token

variable {items : List (String × Nat)}

/-- The ways to write the items down. -/
def quotedEntries (items : List (String × Nat)) : List (Spelling × Nat) :=
  items.map fun e => (⟨e.1, true⟩, e.2)

theorem isProper_of_mem_quotedEntries (h : ∀ e ∈ items, e.1 ≠ "" ∧ '"' ∉ e.1.toList) :
    ∀ e ∈ quotedEntries items, e.1.IsProper := by
  refine List.forall_mem_map.2 fun e he => ?_
  exact ⟨(h e he).1, (h e he).2, fun hbare => Bool.noConfusion hbare⟩

/-- Items in quotes with no spaces at the ends have quotes at the ends. -/
theorem ends_written (init : List (String × Nat)) (item : String) :
    let cs := (written 0 (quotedEntries (init ++ [(item, 0)]))).toList
    cs.head? = some '"' ∧ cs.getLast? = some '"' := by
  have hlast : (written 0 (quotedEntries (init ++ [(item, 0)]))).toList =
      (written 0 (quotedEntries init)).toList ++ '"' :: (item.toList ++ ['"']) := by
    simp [written, quotedEntries, Spelling.toList_text_quoted]
  rw [hlast]
  refine ⟨?_, ?_⟩
  · cases init with
    | nil => rfl
    | cons e init => simp [written, quotedEntries, Spelling.toList_text_quoted]
  · rw [← List.cons_append, ← List.append_assoc, List.getLast?_concat]

theorem isBlank_of_mem_spaces {n : Nat} {c : Char} (h : c ∈ List.replicate n ' ') :
    isBlank c = true := by
  rw [List.eq_of_mem_replicate h]
  rfl

/-- Spaces at the ends are trimmed, and nothing else is. -/
theorem trimChars_written (before gap : Nat) (init : List (String × Nat)) (item : String) :
    Text.trimChars (written before (quotedEntries (init ++ [(item, gap)]))).toList =
      (written 0 (quotedEntries (init ++ [(item, 0)]))).toList := by
  have hsplit : (written before (quotedEntries (init ++ [(item, gap)]))).toList =
      List.replicate before ' ' ++ (written 0 (quotedEntries (init ++ [(item, 0)]))).toList ++
        List.replicate gap ' ' := by
    simp [written, quotedEntries]
  have hquote : isBlank '"' = false := by decide
  obtain ⟨hhead, hlast⟩ := ends_written init item
  rw [hsplit, Text.trimChars_append (fun _ => isBlank_of_mem_spaces)
    fun _ => isBlank_of_mem_spaces]
  refine Text.stripChars_eq_self ?_ ?_
  · intro c hc
    rwa [← Option.some.inj (hhead.symm.trans hc)]
  · intro c hc
    rwa [← Option.some.inj (hlast.symm.trans hc)]

/-- Items in quotes are read back, whatever spaces are around them. -/
theorem tokenize_trim_written (before : Nat)
    (hitems : ∀ e ∈ items, e.1 ≠ "" ∧ '"' ∉ e.1.toList) (hgaps : ∀ e ∈ items.dropLast, 0 < e.2) :
    tokenize (Text.trim (written before (quotedEntries items))) = items.map Prod.fst := by
  rw [tokenize, Text.trim, String.toList_ofList]
  rcases List.eq_nil_or_concat items with rfl | ⟨init, ⟨item, gap⟩, rfl⟩
  · have hnone : Text.trimChars (written before (quotedEntries [])).toList = [] := by
      rw [Text.trimChars_eq_nil]
      intro c hc
      exact isBlank_of_mem_spaces (n := before) (by simpa [written, quotedEntries] using hc)
    rw [hnone]
    rfl
  · rw [List.concat_eq_append] at hitems hgaps ⊢
    have hproper : ∀ e ∈ quotedEntries (init ++ [(item, 0)]), e.1.IsProper := by
      refine isProper_of_mem_quotedEntries fun e he => ?_
      rcases List.mem_append.1 he with he | he
      · exact hitems e (List.mem_append_left _ he)
      · obtain rfl := List.mem_singleton.1 he
        exact hitems (item, gap) (by simp)
    have hgaps' : ∀ e ∈ (quotedEntries (init ++ [(item, 0)])).dropLast, 0 < e.2 := by
      rw [List.dropLast_concat] at hgaps
      rw [quotedEntries, ← List.map_dropLast, List.dropLast_concat]
      exact List.forall_mem_map.2 hgaps
    rw [trimChars_written, written, String.toList_ofList, words_spaces,
      words_entries hproper hgaps']
    simp [quotedEntries]

end Token

/-- A list in brackets: some spaces, and then each item in double quotes and the number of spaces
after it. -/
def listText (before : Nat) (items : List (String × Nat)) : String :=
  "[" ++ Token.written before (Token.quotedEntries items) ++ "]"

example : listText 1 [("a b", 2), ("[c]", 0)] = "[ \"a b\"  \"[c]\"]" := by decide +kernel

section Brackets

variable {items : List (String × Nat)} (before : Nat)

theorem trim_listText : Text.trim (listText before items) = listText before items := by
  have hchars : (listText before items).toList = '[' :: (_ ++ [']']) := toList_brackets _
  exact Text.trim_of_ends hchars (by decide) (by decide)

theorem bracketed?_listText (hitems : ∀ e ∈ items, e.1 ≠ "" ∧ '"' ∉ e.1.toList)
    (hgaps : ∀ e ∈ items.dropLast, 0 < e.2) :
    bracketed? (listText before items) = some (items.map Prod.fst) := by
  rw [listText, bracketed?_brackets, Token.tokenize_trim_written before hitems hgaps]

/-- **Items in brackets are read back** in a loop. -/
theorem listItems_brackets (hitems : ∀ e ∈ items, e.1 ≠ "" ∧ '"' ∉ e.1.toList)
    (hgaps : ∀ e ∈ items.dropLast, 0 < e.2) :
    listItems (listText before items) = items.map Prod.fst := by
  rw [listItems, trim_listText, bracketed?_listText before hitems hgaps]

/-- **Items in brackets are read back** at the head of a pipeline. -/
theorem Head.parse_brackets (hitems : ∀ e ∈ items, e.1 ≠ "" ∧ '"' ∉ e.1.toList)
    (hgaps : ∀ e ∈ items.dropLast, 0 < e.2) :
    Head.parse (listText before items) =
      .literal (.success (.list (items.map fun e => .string e.1))) := by
  have hne : listText before items ≠ "" := by
    intro h
    have hchars := congrArg String.toList h
    rw [listText, toList_brackets] at hchars
    cases hchars
  rw [Head.parse, trim_listText, if_neg hne, bracketed?_listText before hitems hgaps]
  dsimp only
  rw [List.map_map]
  rfl

end Brackets

/-! ## Items between pipes -/

/-- The items, each in quotes of its kind, with pipes between them. -/
def pipedText (items : List (Char × String)) : String :=
  Text.join "|" (items.map fun e => inQuotes e.1 e.2)

example : pipedText [('"', "a'b"), ('\'', "\"c d\"")] = "\"a'b\"|'\"c d\"'" := by decide +kernel

/-- A quote of either kind. -/
def IsQuote (q : Char) : Prop :=
  q = '"' ∨ q = '\''

instance (q : Char) : Decidable (IsQuote q) :=
  inferInstanceAs (Decidable (_ ∨ _))

theorem IsQuote.isBlank {q : Char} (h : IsQuote q) : JsonShell.isBlank q = false := by
  rcases h with rfl | rfl <;> decide

theorem trim_inQuotes {q : Char} (h : IsQuote q) (inner : String) :
    Text.trim (inQuotes q inner) = inQuotes q inner :=
  Text.trim_of_ends (toList_inQuotes q inner) h.isBlank h.isBlank

section Pipes

variable {items : List (Char × String)} (hlength : 2 ≤ items.length)
  (hitems : ∀ e ∈ items, IsQuote e.1 ∧ '|' ∉ e.2.toList)
include hlength hitems

/-- Between the first and the last quote there is a pipe. -/
theorem exists_pipedText_eq : ∃ q inner q', IsQuote q ∧ IsQuote q' ∧ '|' ∈ inner ∧
    (pipedText items).toList = q :: (inner ++ [q']) := by
  obtain ⟨first, rest, rfl⟩ := List.exists_cons_of_length_pos (Nat.lt_of_succ_lt hlength)
  have hrest : rest ≠ [] := List.ne_nil_of_length_pos (Nat.le_of_succ_le_succ hlength)
  obtain ⟨init, last, rfl⟩ := (List.eq_nil_or_concat rest).resolve_left hrest
  rw [List.concat_eq_append] at hitems
  refine ⟨first.1, first.2.toList ++ first.1 ::
      (init.flatMap (fun e => '|' :: (inQuotes e.1 e.2).toList) ++ '|' :: last.1 :: last.2.toList),
    last.1, (hitems first (by simp)).1, (hitems last (by simp)).1, by simp, ?_⟩
  rw [pipedText, List.map_cons, Text.toList_join_cons, List.flatMap_map, toList_inQuotes]
  simp [toList_inQuotes]

/-- **Items between pipes are read back.** -/
theorem listItems_join : listItems (pipedText items) = items.map Prod.snd := by
  obtain ⟨q, inner, q', hq, hq', hpipe, hchars⟩ := exists_pipedText_eq hlength hitems
  have htrim : Text.trim (pipedText items) = pipedText items :=
    Text.trim_of_ends hchars hq.isBlank hq'.isBlank
  have hbracket : (pipedText items).toList.head? ≠ some '[' := by
    rw [hchars]
    intro h
    obtain rfl := Option.some.inj h
    exact absurd hq (by decide)
  have hmem : (pipedText items).toList.contains '|' = true := by
    rw [List.contains_iff_mem, hchars]
    simp [hpipe]
  have hpipeText : "|" = String.singleton '|' := rfl
  have hne : items.map (fun e => inQuotes e.1 e.2) ≠ [] := by
    rw [Ne, List.map_eq_nil_iff]
    exact List.ne_nil_of_length_pos (Nat.lt_of_succ_lt hlength)
  have hparts : ∀ p ∈ items.map (fun e => inQuotes e.1 e.2), '|' ∉ p.toList := by
    refine List.forall_mem_map.2 fun e he => ?_
    obtain ⟨hquote, hitem⟩ := hitems e he
    rw [toList_inQuotes]
    rcases hquote with hquote | hquote <;> simp [hquote, hitem]
  rw [listItems, htrim, bracketed?_eq_none hbracket]
  dsimp only
  rw [if_pos hmem, pipedText, hpipeText, Text.splitString_join hne hparts, List.map_map]
  refine List.map_congr_left fun e he => ?_
  have hquote := (hitems e he).1
  rw [Function.comp_apply, trim_inQuotes hquote, unquote_inQuotes hquote]

end Pipes

/-- **Lists are read back.**  Items in double quotes, with spaces between them and in brackets, are
the items of the list, for a loop and as the head of a pipeline.  Two or more items without pipes,
each in quotes of either kind and with pipes between them, are the items of the list, whatever
quotes and spaces are in them. -/
theorem listItems_written :
    (∀ before (items : List (String × Nat)), (∀ e ∈ items, e.1 ≠ "" ∧ '"' ∉ e.1.toList) →
      (∀ e ∈ items.dropLast, 0 < e.2) →
      listItems (listText before items) = items.map Prod.fst ∧
      Head.parse (listText before items) =
        .literal (.success (.list (items.map fun e => .string e.1)))) ∧
    ∀ items : List (Char × String), 2 ≤ items.length →
      (∀ e ∈ items, IsQuote e.1 ∧ '|' ∉ e.2.toList) →
      listItems (pipedText items) = items.map Prod.snd := by
  refine ⟨?_, fun items hlength hitems => listItems_join hlength hitems⟩
  intro before items hitems hgaps
  exact ⟨listItems_brackets before hitems hgaps, Head.parse_brackets before hitems hgaps⟩

/-- Items with brackets, pipes, quotes and spaces at their ends. -/
theorem listItems_written_nested :
    let bracketed : List (String × Nat) := [(" [a|'b'] ", 2), ("名", 1), ("]", 0)]
    let piped : List (Char × String) := [('"', "\"a\""), ('\'', " [b] "), ('"', "")]
    (∀ e ∈ bracketed, e.1 ≠ "" ∧ '"' ∉ e.1.toList) ∧ (∀ e ∈ bracketed.dropLast, 0 < e.2) ∧
      listItems "[\" [a|'b'] \"  \"名\" \"]\"]" = [" [a|'b'] ", "名", "]"] ∧
      Head.parse "[\" [a|'b'] \"  \"名\" \"]\"]" =
        .literal (.success (.list [.string " [a|'b'] ", .string "名", .string "]"])) ∧
      2 ≤ piped.length ∧ (∀ e ∈ piped, IsQuote e.1 ∧ '|' ∉ e.2.toList) ∧
      listItems "\"\"a\"\"|' [b] '|\"\"" = ["\"a\"", " [b] ", ""] := by
  intro bracketed piped
  have hitems : ∀ e ∈ bracketed, e.1 ≠ "" ∧ '"' ∉ e.1.toList := by decide
  have hgaps : ∀ e ∈ bracketed.dropLast, 0 < e.2 := by decide
  have hparts : ∀ e ∈ piped, IsQuote e.1 ∧ '|' ∉ e.2.toList := by decide
  have hbracketed : listText 0 bracketed = "[\" [a|'b'] \"  \"名\" \"]\"]" := by decide +kernel
  have hpiped : pipedText piped = "\"\"a\"\"|' [b] '|\"\"" := by decide +kernel
  obtain ⟨hlist, hhead⟩ := listItems_written.1 0 bracketed hitems hgaps
  have hpipes := listItems_written.2 piped (by decide) hparts
  rw [hbracketed] at hlist hhead
  rw [hpiped] at hpipes
  exact ⟨hitems, hgaps, hlist, hhead, by decide, hparts, hpipes⟩

end JsonShell
