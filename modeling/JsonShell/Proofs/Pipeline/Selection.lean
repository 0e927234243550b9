import JsonShell.Pipeline.Stage
import JsonShell.Proofs.Dictionary
import JsonShell.Proofs.Line.Word
import JsonShell.Proofs.Text.Split
import JsonShell.Proofs.Text.Trim
import Mathlib.Data.List.Basic

/-!
# Selections

A selection names fields with commas between them and blanks around the commas, and it leaves the
entries of an output that have these names (`Stage.select_written`).

The names come out of the text in three steps.  The words of the text are put together again with
single spaces, which changes nothing but the spaces around the commas (`exists_squeeze_body`).  Then
the text is cut at the commas, and what is around the names is trimmed (`selectFields_written`).

What the selection leaves is `Dictionary.only`, whatever order the names are in, so that the laws of
selections are laws of that.
-/

set_option autoImplicit false

namespace JsonShell

/-- A field name that can be written in a selection. -/
structure IsFieldName (name : String) : Prop where
  ne_empty : name ≠ ""
  isPlain : ∀ c ∈ name.toList, isBlank c = false ∧ c ≠ ',' ∧ c ≠ '"'

/-- A further field of a selection, with the blanks before and after its comma. -/
structure Selection.Next where
  before : String
  after : String
  name : String

/-- A selection as it is written. -/
structure Selection where
  first : String
  rest : List Selection.Next

namespace Selection

/-- The names of the fields, in order. -/
def fields (s : Selection) : List String :=
  s.first :: s.rest.map Next.name

/-- A comma with its blanks, and the name after it. -/
def Next.chars (n : Next) : List Char :=
  n.before.toList ++ ',' :: (n.after.toList ++ n.name.toList)

/-- The selection without the word `select`. -/
def body (s : Selection) : List Char :=
  s.first.toList ++ s.rest.flatMap Next.chars

/-- The text of the selection. -/
def text (s : Selection) : String :=
  "select " ++ String.ofList s.body

/-- The blanks around the comma are blank. -/
structure Next.IsProper (n : Next) : Prop where
  before : ∀ c ∈ n.before.toList, isBlank c = true
  after : ∀ c ∈ n.after.toList, isBlank c = true
  name : IsFieldName n.name

/-- The selection names fields, and it is not the star that stands for all of them. -/
structure IsProper (s : Selection) : Prop where
  first : IsFieldName s.first
  rest : ∀ n ∈ s.rest, n.IsProper
  ne_star : s.fields ≠ ["*"]

instance (name : String) : Decidable (IsFieldName name) :=
  decidable_of_iff
    (name ≠ "" ∧ name.toList.all fun c => decide (isBlank c = false ∧ c ≠ ',' ∧ c ≠ '"'))
    ⟨fun h => ⟨h.1, by simpa using h.2⟩, fun h => ⟨h.1, by simpa using h.2⟩⟩

instance (n : Next) : Decidable n.IsProper :=
  decidable_of_iff
    (n.before.toList.all isBlank ∧ n.after.toList.all isBlank ∧ IsFieldName n.name)
    ⟨fun h => ⟨List.all_eq_true.1 h.1, List.all_eq_true.1 h.2.1, h.2.2⟩,
      fun h => ⟨List.all_eq_true.2 h.1, List.all_eq_true.2 h.2, h.3⟩⟩

instance (s : Selection) : Decidable s.IsProper :=
  decidable_of_iff
    (IsFieldName s.first ∧ (∀ n ∈ s.rest, n.IsProper) ∧ s.fields ≠ ["*"])
    ⟨fun h => ⟨h.1, h.2.1, h.2.2⟩, fun h => ⟨h.1, h.2, h.3⟩⟩

example : text ⟨"a", [⟨"", " ", "b"⟩, ⟨" ", "", "c"⟩]⟩ = "select a, b ,c" := by decide +kernel

end Selection

namespace IsFieldName

variable {name : String} (h : IsFieldName name)
include h

theorem exists_cons : ∃ c cs, name.toList = c :: cs :=
  List.exists_cons_of_ne_nil (by rw [Ne, String.toList_eq_nil_iff]; exact h.ne_empty)

theorem space_not_mem : ' ' ∉ name.toList :=
  fun hmem => absurd (h.isPlain ' ' hmem).1 (by decide)

theorem comma_not_mem : ',' ∉ name.toList :=
  fun hmem => (h.isPlain ',' hmem).2.1 rfl

theorem quote_not_mem : '"' ∉ name.toList :=
  fun hmem => (h.isPlain '"' hmem).2.2 rfl

theorem trimChars_toList : Text.trimChars name.toList = name.toList := by
  refine Text.stripChars_eq_self ?_ ?_
  · intro c hc
    exact (h.isPlain c (List.mem_of_mem_head? hc)).1
  · intro c hc
    exact (h.isPlain c (List.mem_of_getLast? hc)).1

end IsFieldName

namespace Selection

theorem not_mem_of_isBlank {cs : List Char} {c : Char} (hcs : ∀ d ∈ cs, isBlank d = true)
    (hc : isBlank c = false) : c ∉ cs := by
  intro hmem
  exact Bool.noConfusion ((hcs c hmem).symm.trans hc)

/-! ## From the text to the names -/

section Names

variable {rest : List Next} (hrest : ∀ n ∈ rest, n.IsProper)
include hrest

theorem quote_not_mem_flatMap : '"' ∉ rest.flatMap Next.chars := by
  intro hmem
  obtain ⟨n, hn, hmem⟩ := List.mem_flatMap.1 hmem
  obtain ⟨hbefore, hafter, hname⟩ := hrest n hn
  rcases List.mem_append.1 hmem with hmem | hmem
  · exact not_mem_of_isBlank hbefore (by decide) hmem
  · rcases List.mem_append.1 (List.mem_of_ne_of_mem (by decide) hmem) with hmem | hmem
    · exact not_mem_of_isBlank hafter (by decide) hmem
    · exact hname.quote_not_mem hmem

/-- Without some of its spaces a selection has the same names. -/
theorem exists_squeeze_flatMap : ∃ rest' : List Next, rest'.map Next.name = rest.map Next.name ∧
    (∀ n ∈ rest', n.IsProper) ∧
    Token.squeeze (rest.flatMap Next.chars) = rest'.flatMap Next.chars := by
  induction rest with
  | nil => exact ⟨[], rfl, List.forall_mem_nil _, rfl⟩
  | cons n rest ih =>
    obtain ⟨hn, hrest⟩ := List.forall_mem_cons.1 hrest
    obtain ⟨rest', hnames, hproper, hsqueeze⟩ := ih hrest
    obtain ⟨c, name, hname⟩ := hn.name.exists_cons
    have hspace : ' ' ∉ c :: name := hname ▸ hn.name.space_not_mem
    have hc : c ≠ ' ' := (List.ne_of_not_mem_cons hspace).symm
    obtain ⟨before, hbefore, hcomma⟩ := Token.exists_squeeze_append_cons n.before.toList
      (c := ',') (by decide) (n.after.toList ++ c :: (name ++ rest.flatMap Next.chars))
    obtain ⟨after, hafter, hletter⟩ := Token.exists_squeeze_append_cons n.after.toList hc
      (name ++ rest.flatMap Next.chars)
    refine ⟨⟨String.ofList before, String.ofList after, n.name⟩ :: rest', ?_, ?_, ?_⟩
    · rw [List.map_cons, List.map_cons, hnames]
    · refine List.forall_mem_cons.2 ⟨⟨?_, ?_, hn.name⟩, hproper⟩
      · intro d hd
        rw [String.toList_ofList] at hd
        exact hn.before d (hbefore hd)
      · intro d hd
        rw [String.toList_ofList] at hd
        exact hn.after d (hafter hd)
    · rw [List.flatMap_cons, List.flatMap_cons, ← hsqueeze]
      simp only [Next.chars, hname, String.toList_ofList, List.append_assoc, List.cons_append]
      rw [hcomma, hletter, Token.squeeze_append (List.not_mem_of_not_mem_cons hspace)]

/-- The pieces between the commas are the names with blanks around. -/
theorem splitOn_append_flatMap {cs : List Char} (hcs : ',' ∉ cs) :
    (Text.splitOn ',' (cs ++ rest.flatMap Next.chars)).map Text.trimChars =
      Text.trimChars cs :: rest.map fun n => n.name.toList := by
  induction rest generalizing cs with
  | nil => rw [List.flatMap_nil, List.append_nil, Text.splitOn_of_not_mem hcs]; rfl
  | cons n rest ih =>
    obtain ⟨hn, hrest⟩ := List.forall_mem_cons.1 hrest
    have hpiece : ',' ∉ cs ++ n.before.toList := by
      intro hmem
      rcases List.mem_append.1 hmem with hmem | hmem
      · exact hcs hmem
      · exact not_mem_of_isBlank hn.before (by decide) hmem
    have hnext : ',' ∉ n.after.toList ++ n.name.toList := by
      intro hmem
      rcases List.mem_append.1 hmem with hmem | hmem
      · exact not_mem_of_isBlank hn.after (by decide) hmem
      · exact hn.name.comma_not_mem hmem
    have hsplit : cs ++ (n :: rest).flatMap Next.chars = (cs ++ n.before.toList) ++
        ',' :: ((n.after.toList ++ n.name.toList) ++ rest.flatMap Next.chars) := by
      simp [Next.chars]
    rw [hsplit, Text.splitOn_append hpiece, List.map_cons, ih hrest hnext,
      Text.trimChars_append_right hn.before, Text.trimChars_append_left hn.after,
      hn.name.trimChars_toList, List.map_cons]

end Names

section Reading

variable {s : Selection} (h : s.IsProper)
include h

theorem isFieldName_of_mem_fields : ∀ name ∈ s.fields, IsFieldName name :=
  List.forall_mem_cons.2 ⟨h.first, List.forall_mem_map.2 fun n hn => (h.rest n hn).name⟩

theorem quote_not_mem_body : '"' ∉ s.body := by
  intro hmem
  rcases List.mem_append.1 hmem with hmem | hmem
  · exact h.first.quote_not_mem hmem
  · exact quote_not_mem_flatMap h.rest hmem

/-- A selection begins with the first name. -/
theorem exists_body_eq_cons : ∃ c cs, s.body = c :: cs ∧ isBlank c = false := by
  obtain ⟨c, cs, hfirst⟩ := h.first.exists_cons
  refine ⟨c, cs ++ s.rest.flatMap Next.chars, by rw [body, hfirst, List.cons_append], ?_⟩
  exact (h.first.isPlain c (hfirst ▸ List.mem_cons_self)).1

/-- A selection ends with the last name. -/
theorem isBlank_of_getLast?_body {c : Char} (hc : s.body.getLast? = some c) :
    isBlank c = false := by
  rcases List.eq_nil_or_concat s.rest with hrest | ⟨init, n, hrest⟩
  · rw [body, hrest, List.flatMap_nil, List.append_nil] at hc
    exact (h.first.isPlain c (List.mem_of_getLast? hc)).1
  · rw [List.concat_eq_append] at hrest
    have hn : n.IsProper := h.rest n (by rw [hrest]; exact List.mem_concat_self)
    obtain ⟨d, cs, hname⟩ := hn.name.exists_cons
    have hbody : s.body = (s.first.toList ++ init.flatMap Next.chars ++ n.before.toList ++
        ',' :: n.after.toList) ++ n.name.toList := by
      simp [body, hrest, Next.chars]
    have hne : n.name.toList ≠ [] := by
      rw [hname]
      exact List.cons_ne_nil d cs
    rw [hbody, List.getLast?_append_of_ne_nil _ hne] at hc
    exact (hn.name.isPlain c (List.mem_of_getLast? hc)).1

/-- **Only spaces around the commas get lost** when the words of a selection are put together. -/
theorem exists_squeeze_body : ∃ s' : Selection, s'.IsProper ∧ s'.fields = s.fields ∧
    [' '].intercalate (Token.words s.body) = s'.body := by
  obtain ⟨rest, hnames, hproper, hsqueeze⟩ := exists_squeeze_flatMap h.rest
  have hfields : fields ⟨s.first, rest⟩ = s.fields := by rw [fields, fields, hnames]
  refine ⟨⟨s.first, rest⟩, ⟨h.first, hproper, by rw [hfields]; exact h.ne_star⟩, hfields, ?_⟩
  obtain ⟨c, cs, hbody, hblank⟩ := exists_body_eq_cons h
  have hbegins : s.body ≠ [] ∧ s.body.head? ≠ some ' ' := by
    rw [hbody]
    refine ⟨List.cons_ne_nil c cs, ?_⟩
    rintro ⟨⟩
    exact absurd hblank (by decide)
  rw [Token.words, Token.intercalate_scan (quote_not_mem_body h) fun _ => hbegins, body,
    Token.squeeze_append h.first.space_not_mem, hsqueeze]
  rfl

theorem trim_body : Text.trim (String.ofList s.body) = String.ofList s.body := by
  obtain ⟨c, cs, hbody, hblank⟩ := exists_body_eq_cons h
  refine Text.trim_eq_self ?_ ?_ <;> rw [String.toList_ofList]
  · rw [hbody]
    rintro d ⟨⟩
    exact hblank
  · exact fun d hd => isBlank_of_getLast?_body h hd

theorem splitString_body :
    (Text.splitString ',' (String.ofList s.body)).map Text.trim = s.fields := by
  have hsplit := splitOn_append_flatMap h.rest h.first.comma_not_mem
  rw [h.first.trimChars_toList] at hsplit
  have hnames := congrArg (List.map String.ofList) hsplit
  rw [Text.splitString, String.toList_ofList, List.map_map]
  simpa [fields, body, Text.trim, Function.comp_def] using hnames

/-- **The names are read back.** -/
theorem selectFields_written :
    selectFields ((Token.words s.body).map String.ofList) = s.fields := by
  obtain ⟨s', h', hfields, hjoin⟩ := exists_squeeze_body h
  have hjoined :
      Text.join " " ((Token.words s.body).map String.ofList) = String.ofList s'.body := by
    rw [← String.toList_inj, Text.join, String.toList_intercalate, String.toList_ofList, ← hjoin,
      List.map_map]
    simp [Function.comp_def]
  have hstar : String.ofList s'.body ≠ "*" := by
    intro hstar
    have hfields' := splitString_body h'
    rw [hstar] at hfields'
    exact h'.ne_star (hfields'.symm.trans (by decide +kernel))
  have hkept : ∀ name ∈ s.fields, decide (name ≠ "") = true :=
    fun name hname => decide_eq_true (isFieldName_of_mem_fields h name hname).ne_empty
  rw [selectFields, hjoined, trim_body h', if_neg hstar, splitString_body h', hfields,
    List.filter_eq_self.2 hkept]

/-- **A selection is the stage that keeps its fields.** -/
theorem parse?_eq_select : Stage.parse? s.text = some (.select s.fields) := by
  have htext : s.text.toList = "select".toList ++ ' ' :: s.body := by
    have hbody : (String.ofList s.body).toList = s.body := String.toList_ofList
    rw [text, String.toList_append, hbody, List.append_cons]
    rfl
  have htrim : Text.trim s.text = s.text := by
    refine Text.trim_eq_self ?_ ?_ <;> rw [htext]
    · rintro c ⟨⟩
      decide
    · obtain ⟨d, cs, hbody, -⟩ := exists_body_eq_cons h
      have hne : s.body ≠ [] := hbody ▸ List.cons_ne_nil d cs
      intro c hc
      rw [List.append_cons, List.getLast?_append_of_ne_nil _ hne] at hc
      exact isBlank_of_getLast?_body h hc
  rw [Stage.parse?, htrim, tokenize, htext, Token.words_append_space (by decide), List.map_cons,
    String.ofList_toList, Stage.ofWords?, if_pos rfl, selectFields_written h]

end Reading

end Selection

/-! ## What is left of a record -/

namespace Record

variable {fields others : List String} {r : Record} {d : Dictionary Value}

theorem select_nil (r : Record) : r.select [] = r := rfl

theorem select_map (hne : fields ≠ []) (h : r.output = some (.map d)) :
    r.select fields = { r with output := some (.map (Dictionary.only fields d)) } := by
  rw [select, if_neg (by simpa using hne), h]
  rfl

theorem select_of_not_map (h : ∀ d, r.output ≠ some (.map d)) (fields : List String) :
    r.select fields = r := by
  rw [select]
  split
  · rfl
  · split
    · rename_i d hd
      exact absurd hd (h d)
    · rfl

theorem select_map_filter (hne : fields ≠ []) (h : r.output = some (.map d))
    (hd : Dictionary.Sorted d) :
    r.select fields = { r with output := some (.map (d.filter fun p => p.1 ∈ fields)) } := by
  rw [select_map hne h, Dictionary.only_eq_filter hd]

theorem select_select_map (hfields : fields ≠ []) (hothers : others ≠ [])
    (h : r.output = some (.map d)) :
    (r.select fields).select others =
      { r with output := some (.map (Dictionary.only (fields.filter (· ∈ others)) d)) } := by
  rw [select_map hfields h, select_map hothers rfl, Dictionary.only_only]

/-- After two selections the entries are left that have names of both. -/
theorem select_select_map_filter (hfields : fields ≠ []) (hothers : others ≠ [])
    (h : r.output = some (.map d)) (hd : Dictionary.Sorted d) :
    (r.select fields).select others =
      { r with output := some (.map (d.filter fun p => p.1 ∈ fields ∧ p.1 ∈ others)) } := by
  rw [select_select_map hfields hothers h, Dictionary.only_eq_filter hd]
  simp only [List.mem_filter, decide_eq_true_eq]

/-- **Selections commute.** -/
theorem select_comm (fields others : List String) (r : Record) :
    (r.select fields).select others = (r.select others).select fields := by
  by_cases hfields : fields = []
  · rw [hfields, select_nil, select_nil]
  by_cases hothers : others = []
  · rw [hothers, select_nil, select_nil]
  by_cases hmap : ∃ d, r.output = some (.map d)
  · obtain ⟨d, hd⟩ := hmap
    have hboth : ∀ key, key ∈ fields.filter (· ∈ others) ↔ key ∈ others.filter (· ∈ fields) := by
      intro key
      simp [and_comm]
    rw [select_select_map hfields hothers hd, select_select_map hothers hfields hd,
      Dictionary.only_congr hboth]
  · have hnot := not_exists.1 hmap
    rw [select_of_not_map hnot, select_of_not_map hnot, select_of_not_map hnot]

/-- **Only which fields are named matters**, not their order, nor how often. -/
theorem select_congr (h : ∀ key, key ∈ fields ↔ key ∈ others) (r : Record) :
    r.select fields = r.select others := by
  by_cases hfields : fields = []
  · have hothers : others = [] := List.eq_nil_iff_forall_not_mem.2 fun key hkey =>
      List.not_mem_nil (hfields ▸ (h key).2 hkey)
    rw [hfields, hothers]
  have hothers : others ≠ [] := by
    obtain ⟨key, hkey⟩ := List.exists_mem_of_ne_nil fields hfields
    exact List.ne_nil_of_mem ((h key).1 hkey)
  by_cases hmap : ∃ d, r.output = some (.map d)
  · obtain ⟨d, hd⟩ := hmap
    rw [select_map hfields hd, select_map hothers hd, Dictionary.only_congr h]
  · have hnot := not_exists.1 hmap
    rw [select_of_not_map hnot, select_of_not_map hnot]

/-- **The same selection again does nothing.** -/
theorem select_idem (fields : List String) (r : Record) :
    (r.select fields).select fields = r.select fields := by
  by_cases hfields : fields = []
  · rw [hfields, select_nil, select_nil]
  by_cases hmap : ∃ d, r.output = some (.map d)
  · obtain ⟨d, hd⟩ := hmap
    have hself : ∀ key, key ∈ fields.filter (· ∈ fields) ↔ key ∈ fields := by
      intro key
      simp
    rw [select_select_map hfields hfields hd, select_map hfields hd, Dictionary.only_congr hself]
  · have hnot := not_exists.1 hmap
    rw [select_of_not_map hnot, select_of_not_map hnot]

end Record

/-- **A selection restricts objects.**  The stage that is read from the text of a selection leaves
the entries of an object that have the names of its fields, with their values, and nothing else of
the record is changed; a second one leaves the entries with names of both.  So selections commute,
the same one again does nothing, and only which fields are named matters.  An output that is not an
object is left alone by every selection. -/
theorem Stage.select_written :
    (∀ s t : Selection, s.IsProper → t.IsProper → ∃ S T : Stage,
      Stage.parse? s.text = some S ∧ Stage.parse? t.text = some T ∧
      (∀ (r : Record) (d : Dictionary Value), r.output = some (.map d) → Dictionary.Sorted d →
        S.apply r = { r with output := some (.map (d.filter fun p => p.1 ∈ s.fields)) } ∧
        T.apply (S.apply r) =
          { r with output := some (.map (d.filter fun p => p.1 ∈ s.fields ∧ p.1 ∈ t.fields)) }) ∧
      ∀ r : Record, T.apply (S.apply r) = S.apply (T.apply r) ∧
        S.apply (S.apply r) = S.apply r ∧
        ((∀ name, name ∈ s.fields ↔ name ∈ t.fields) → S.apply r = T.apply r)) ∧
    ∀ (fields : List String) (r : Record), (∀ d, r.output ≠ some (.map d)) →
      (Stage.select fields).apply r = r := by
  refine ⟨?_, fun fields r hnot => Record.select_of_not_map hnot fields⟩
  intro s t hs ht
  have hfields : s.fields ≠ [] := List.cons_ne_nil _ _
  have hothers : t.fields ≠ [] := List.cons_ne_nil _ _
  refine ⟨.select s.fields, .select t.fields, Selection.parse?_eq_select hs,
    Selection.parse?_eq_select ht, ?_, ?_⟩
  · intro r d houtput hd
    exact ⟨Record.select_map_filter hfields houtput hd,
      Record.select_select_map_filter hfields hothers houtput hd⟩
  · intro r
    refine ⟨Record.select_comm s.fields t.fields r, Record.select_idem s.fields r, ?_⟩
    exact fun hnames => Record.select_congr hnames r

/-- Two selections with one field in common, of an object that has not all of the fields. -/
theorem Stage.select_written_overlap :
    let s : Selection := ⟨"b", [⟨" ", "", "a"⟩]⟩
    let t : Selection := ⟨"名", [⟨"", "  ", "b"⟩]⟩
    let d : Dictionary Value := [("a", .ofInt 1), ("b", .list [.null]), ("c", .string "x")]
    let r : Record := ⟨some (.map d), some "partial", .table, [("note", .bool true)]⟩
    let absent : Record := ⟨none, none, .raw, [("note", .null)]⟩
    s.IsProper ∧ t.IsProper ∧ Dictionary.Sorted d ∧
      (∃ S T : Stage, Stage.parse? "select b ,a" = some S ∧ Stage.parse? "select 名,  b" = some T ∧
        S.apply r = { r with output := some (.map [("a", .ofInt 1), ("b", .list [.null])]) } ∧
        T.apply (S.apply r) = { r with output := some (.map [("b", .list [.null])]) } ∧
        S.apply (T.apply r) = T.apply (S.apply r)) ∧
      (∀ d, absent.output ≠ some (.map d)) ∧ (Stage.select ["note"]).apply absent = absent := by
  intro s t d r absent
  have hs : s.IsProper := by decide +kernel
  have ht : t.IsProper := by decide +kernel
  have hstext : s.text = "select b ,a" := by decide +kernel
  have httext : t.text = "select 名,  b" := by decide +kernel
  have habsent : ∀ d, absent.output ≠ some (.map d) := by
    intro d h
    cases h
  obtain ⟨S, T, hS, hT, hleft, hlaws⟩ := Stage.select_written.1 s t hs ht
  rw [hstext] at hS
  rw [httext] at hT
  have hsorted : Dictionary.Sorted d := by
    simp only [Dictionary.Sorted]
    decide +kernel
  obtain ⟨hfirst, hboth⟩ := hleft r d rfl hsorted
  refine ⟨hs, ht, hsorted, ⟨S, T, hS, hT, ?_, ?_, ?_⟩, habsent, ?_⟩
  · rw [hfirst]
    decide +kernel
  · rw [hboth]
    decide +kernel
  · exact (hlaws r).1.symm
  · exact Stage.select_written.2 ["note"] absent habsent

end JsonShell
