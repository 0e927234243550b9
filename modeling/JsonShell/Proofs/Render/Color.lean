import JsonShell.Proofs.Diagnostic
import JsonShell.Proofs.Render.Fields
import JsonShell.Render

/-!
# Colors only add escape sequences

A sequence is an escape character, a bracket, digits and an `m`.  `Paint.strip` deletes all of them
from a text, and everything else stays.  What is painted begins and ends with sequences, so that a
painted text is stripped to the text itself, and so is whatever is put together from painted and
plain texts (`Paint.Colors`).  Without colors a text has no escape character unless something that
is shown has one.

So colors change nothing else about a record or a diagnostic (`Paint.strip_render`): no width, no
indentation and no separator depends on them.
-/

set_option autoImplicit false

namespace JsonShell

namespace Paint

/-- The character that sequences begin with. -/
def escape : Char := '\x1b'

/-- What comes after the sequence if the text goes on with the rest of one. -/
def afterSequence? : List Char → Option (List Char)
  | '[' :: rest =>
    match rest.takeWhile Char.isDigit, rest.dropWhile Char.isDigit with
    | _ :: _, 'm' :: after => some after
    | _, _ => none
  | _ => none

/-- The rest of a sequence is a bracket, digits and an `m`. -/
theorem afterSequence?_eq_some_iff {cs after : List Char} : afterSequence? cs = some after ↔
    ∃ digits, digits ≠ [] ∧ (∀ c ∈ digits, c.isDigit = true) ∧
      cs = '[' :: (digits ++ 'm' :: after) := by
  constructor
  · intro h
    unfold afterSequence? at h
    split at h
    · split at h
      · rename_i d digits after' htake hdrop
        cases h
        refine ⟨d :: digits, List.cons_ne_nil _ _, fun c hc => ?_, ?_⟩
        · exact List.all_eq_true.1 List.all_takeWhile c (htake ▸ hc)
        · rw [← htake, ← hdrop, List.takeWhile_append_dropWhile]
      · cases h
    · cases h
  · rintro ⟨digits, hne, hdigits, rfl⟩
    obtain ⟨d, digits, rfl⟩ := List.exists_cons_of_ne_nil hne
    have hm : ¬ 'm'.isDigit = true := by decide
    have htake : (d :: digits ++ 'm' :: after).takeWhile Char.isDigit = d :: digits := by
      rw [List.takeWhile_append_of_pos hdigits, List.takeWhile_cons_of_neg hm, List.append_nil]
    have hdrop : (d :: digits ++ 'm' :: after).dropWhile Char.isDigit = 'm' :: after := by
      rw [List.dropWhile_append_of_pos hdigits, List.dropWhile_cons_of_neg hm]
    rw [afterSequence?, htake, hdrop]
    rfl

theorem length_afterSequence? {cs after : List Char} (h : afterSequence? cs = some after) :
    after.length < cs.length := by
  obtain ⟨digits, -, -, rfl⟩ := afterSequence?_eq_some_iff.1 h
  simp only [List.length_cons, List.length_append]
  omega

theorem afterSequence?_append {cs after : List Char} (h : afterSequence? cs = some after)
    (rest : List Char) : afterSequence? (cs ++ rest) = some (after ++ rest) := by
  obtain ⟨digits, hne, hdigits, rfl⟩ := afterSequence?_eq_some_iff.1 h
  exact afterSequence?_eq_some_iff.2 ⟨digits, hne, hdigits, by simp⟩

/-- The text without its sequences. -/
def strip : List Char → List Char
  | [] => []
  | c :: rest =>
    if c = escape then
      match h : afterSequence? rest with
      | some after =>
        have := length_afterSequence? h
        strip after
      | none => c :: strip rest
    else c :: strip rest
termination_by cs => cs.length

variable {cs : List Char} {c : Char}

theorem strip_cons_of_ne (h : c ≠ escape) (rest : List Char) :
    strip (c :: rest) = c :: strip rest := by
  rw [strip, if_neg h]

theorem strip_cons_of_afterSequence? {rest after : List Char}
    (h : afterSequence? rest = some after) : strip (escape :: rest) = strip after := by
  rw [strip, if_pos rfl]
  split
  · rename_i heq
    rw [h] at heq
    rw [Option.some.inj heq]
  · rename_i heq
    rw [h] at heq
    cases heq

/-- A text without escape characters stays. -/
theorem strip_append (h : escape ∉ cs) (rest : List Char) :
    strip (cs ++ rest) = cs ++ strip rest := by
  induction cs with
  | nil => rfl
  | cons c cs ih =>
    rw [List.mem_cons, not_or] at h
    rw [List.cons_append, strip_cons_of_ne (Ne.symm h.1), ih h.2, List.cons_append]

/-- Nothing is left of the text, whatever comes after it. -/
def Vanishes (code : String) : Prop :=
  ∀ rest, strip (code.toList ++ rest) = strip rest

/-- The codes of the terminal. -/
def codes : List String :=
  [reset, bold, dim, red, green, yellow, blue, magenta, cyan]

/-- **Every code is a sequence.** -/
theorem vanishes_of_mem_codes {code : String} (h : code ∈ codes) : Vanishes code := by
  have hall : ∀ code ∈ codes, ∃ cs ∈ code.toList.tail?,
      code.toList = escape :: cs ∧ afterSequence? cs = some [] := by decide +kernel
  obtain ⟨cs, -, hcode, hafter⟩ := hall code h
  intro rest
  rw [hcode, List.cons_append, strip_cons_of_afterSequence? (afterSequence?_append hafter rest),
    List.nil_append]

theorem Vanishes.append {code code' : String} (h : Vanishes code) (h' : Vanishes code') :
    Vanishes (code ++ code') := by
  intro rest
  rw [String.toList_append, List.append_assoc, h, h']

theorem vanishes_levelColor (level : Level) : Vanishes (Diagnostic.levelColor level) := by
  have hbold : Vanishes bold := vanishes_of_mem_codes (by decide)
  cases level with
  | error => exact hbold.append (vanishes_of_mem_codes (by decide))
  | warning => exact hbold.append (vanishes_of_mem_codes (by decide))

theorem vanishes_stepColor (s : Value.Step) : Vanishes (Listing.stepColor s) := by
  cases s with
  | key k =>
    have hcyan : cyan ∈ codes := by decide
    exact vanishes_of_mem_codes hcyan
  | index i =>
    have hblue : blue ∈ codes := by decide
    exact vanishes_of_mem_codes hblue

theorem vanishes_leafColor {v : Value} {leaf : String × String} (h : Listing.leaf? v = some leaf) :
    Vanishes leaf.2 := by
  have hcodes : ∀ {code}, code ∈ [green, yellow, magenta, dim] → Vanishes code := fun hcode =>
    vanishes_of_mem_codes ((by decide : [green, yellow, magenta, dim] ⊆ codes) hcode)
  cases v with
  | string s => cases h; exact hcodes (by simp)
  | number n => cases h; exact hcodes (by simp)
  | bool b => cases h; exact hcodes (by simp)
  | null => cases h; exact hcodes (by simp)
  | _ => cases h

/-! ## Texts and what is painted of them -/

/-- The first text is the second one with sequences put in, and the second one has none. -/
structure Coloring (colored plain : String) : Prop where
  strip_append : ∀ rest, strip (colored.toList ++ rest) = plain.toList ++ strip rest
  no_escape : escape ∉ plain.toList

namespace Coloring

variable {a a' b b' : String}

theorem refl (h : escape ∉ a.toList) : Coloring a a :=
  ⟨Paint.strip_append h, h⟩

theorem of_shown (h : Shown a.toList) : Coloring a a :=
  refl (h.not_mem (by decide))

theorem space : Coloring " " " " :=
  of_shown (by simp)

theorem append (h : Coloring a a') (h' : Coloring b b') : Coloring (a ++ b) (a' ++ b') where
  strip_append rest := by
    rw [String.toList_append, String.toList_append, List.append_assoc, List.append_assoc,
      h.strip_append, h'.strip_append]
  no_escape := by
    rw [String.toList_append, List.mem_append, not_or]
    exact ⟨h.no_escape, h'.no_escape⟩

/-- Sequences around a text. -/
theorem paint {code : String} (hcode : Vanishes code) (h : escape ∉ a.toList) :
    Coloring (paint true code a) (paint false code a) where
  strip_append rest := by
    have hreset : Vanishes reset := vanishes_of_mem_codes List.mem_cons_self
    show strip ((code ++ a ++ reset).toList ++ rest) = a.toList ++ strip rest
    rw [String.toList_append, String.toList_append, List.append_assoc, List.append_assoc, hcode,
      Paint.strip_append h, hreset]
  no_escape := h

theorem strip_eq (h : Coloring a a') : String.ofList (strip a.toList) = a' := by
  have hstrip := h.strip_append []
  rw [List.append_nil, strip, List.append_nil] at hstrip
  rw [hstrip, String.ofList_toList]

end Coloring

/-- The lines of the first list are those of the second one with sequences put in. -/
def ColoringLines (colored plain : List String) : Prop :=
  Coloring (Text.unlines colored) (Text.unlines plain)

namespace ColoringLines

variable {ls ls' ms ms' : List String}

theorem nil : ColoringLines [] [] :=
  Coloring.refl List.not_mem_nil

theorem cons {line line' : String} (h : Coloring line line') (hrest : ColoringLines ls ls') :
    ColoringLines (line :: ls) (line' :: ls') :=
  (h.append (Coloring.refl (by decide))).append hrest

theorem append (h : ColoringLines ls ls') (h' : ColoringLines ms ms') :
    ColoringLines (ls ++ ms) (ls' ++ ms') := by
  rw [ColoringLines, Text.unlines_append, Text.unlines_append]
  exact Coloring.append h h'

theorem map {α : Type} {f g : α → String} {xs : List α} (h : ∀ x ∈ xs, Coloring (f x) (g x)) :
    ColoringLines (xs.map f) (xs.map g) := by
  induction xs with
  | nil => exact nil
  | cons x xs ih =>
    obtain ⟨hx, hxs⟩ := List.forall_mem_cons.1 h
    exact cons hx (ih hxs)

/-- Lines that are the same with colors. -/
theorem refl (h : ∀ line ∈ ls, escape ∉ line.toList) : ColoringLines ls ls := by
  have hmap : ColoringLines (ls.map id) (ls.map id) :=
    map fun line hline => Coloring.refl (h line hline)
  rwa [List.map_id] at hmap

end ColoringLines

/-! ## Listings and tables -/

section Values

open Listing (stepLabel leafPart lineAt)

variable {v : Value}

theorem coloring_lineAt {e : Value.Entry}
    (h : ∀ t ∈ e.step.texts ++ e.value.ownTexts, escape ∉ t.toList) :
    Coloring (lineAt true 0 e) (lineAt false 0 e) := by
  have hindent : Coloring (repeated "  " (0 + e.above.length))
      (repeated "  " (0 + e.above.length)) := .of_shown (shown_repeated (by simp) _)
  have hstep : escape ∉ (Listing.stepText e.step).toList :=
    Listing.not_mem_stepText (by decide) fun t ht => h t (List.mem_append_left _ ht)
  have hlabel : Coloring (stepLabel true (0 + e.above.length) e.step)
      (stepLabel false (0 + e.above.length) e.step) :=
    (hindent.append (.paint (vanishes_stepColor e.step) hstep)).append (.of_shown (by simp))
  have hleaf : Coloring (leafPart true e.value) (leafPart false e.value) := by
    rw [leafPart, leafPart]
    split
    · rename_i leaf heq
      exact Coloring.space.append (.paint (vanishes_leafColor heq)
        (Listing.not_mem_leaf (by decide) (fun t ht => h t (List.mem_append_right _ ht)) heq))
    · exact .of_shown Shown.nil
  exact hlabel.append hleaf

theorem coloring_listing (h : ∀ t ∈ v.texts, escape ∉ t.toList) :
    ColoringLines (Listing.lines true v) (Listing.lines false v) := by
  by_cases hcontainer : v.IsContainer
  · rw [Listing.lines_eq_map hcontainer, Listing.lines_eq_map hcontainer]
    exact .map fun e he =>
      coloring_lineAt fun t ht => h t (Value.texts_subset_of_mem_allEntries he ht)
  · have htext : escape ∉ v.text.toList :=
      Value.not_mem_text (by decide) fun t ht => h t (List.mem_append_left _ ht)
    have hrefl : ColoringLines [v.text] [v.text] := .refl (by simpa using htext)
    cases v with
    | map entries => exact absurd trivial hcontainer
    | list items => exact absurd trivial hcontainer
    | _ => exact hrefl

/-- The keys and the plain forms of an object in a value. -/
theorem escape_not_mem_entry {entries : List (String × Value)}
    (h : ∀ t ∈ (Value.map entries).texts, escape ∉ t.toList) :
    ∀ p ∈ entries, escape ∉ p.1.toList ∧ escape ∉ p.2.text.toList := by
  intro p hp
  have hsubset := Value.texts_subset_of_mem_children (Value.mem_children_map hp)
  refine ⟨h p.1 (hsubset List.mem_cons_self), Value.not_mem_text (by decide) fun t ht => ?_⟩
  exact h t (hsubset (List.mem_append_right _ (List.mem_append_left _ ht)))

theorem coloring_table (h : ∀ t ∈ v.texts, escape ∉ t.toList) :
    ColoringLines (Table.lines true v) (Table.lines false v) := by
  cases v with
  | map entries => exact .refl (Table.not_mem_fields (by decide) (escape_not_mem_entry h))
  | list items =>
    have hrows : ∀ row ∈ items.filterMap Value.entries?, ∀ p ∈ row,
        escape ∉ p.1.toList ∧ escape ∉ p.2.text.toList := by
      intro row hrow
      obtain ⟨w, hw, hentries⟩ := List.mem_filterMap.1 hrow
      obtain ⟨i, hchild⟩ := Value.exists_mem_children_list hw
      have hsubset := Value.texts_subset_of_mem_children hchild
      have htexts : ∀ t ∈ w.texts, escape ∉ t.toList := fun t ht =>
        h t (hsubset (List.mem_append_right _ ht))
      cases w with
      | map entries =>
        cases hentries
        exact escape_not_mem_entry htexts
      | _ => cases hentries
    rw [Table.lines, Table.lines]
    split
    · exact .refl (by decide)
    · dsimp only
      split
      · exact coloring_listing h
      · exact .refl (Table.not_mem_grid (by decide) hrows)
  | _ => exact coloring_listing h

end Values

/-! ## Records and diagnostics -/

theorem coloring_record {r : Record}
    (h : r.display ≠ .raw → ∀ v, r.output = some v → ∀ t ∈ v.texts, escape ∉ t.toList) :
    Coloring (r.render true) (r.render false) := by
  have hbreak : Coloring "\n" "\n" := .refl (by decide)
  have hbody : Coloring (r.body true) (r.body false) := by
    rw [Record.body, Record.body]
    cases hdisplay : r.display with
    | raw =>
      refine Coloring.append (.refl ?_) hbreak
      rw [Value.indented, String.toList_ofList]
      exact Value.not_mem_indentedChars (by decide) (by decide) r.toValue 0
    | pretty =>
      cases houtput : r.output with
      | none => exact .of_shown Shown.nil
      | some v => exact coloring_listing (h (by simp [hdisplay]) v houtput)
    | table =>
      cases houtput : r.output with
      | none => exact .of_shown Shown.nil
      | some v => exact coloring_table (h (by simp [hdisplay]) v houtput)
  exact (hbreak.append hbody).append hbreak

section Diagnostics

open Diagnostic

variable {d : Diagnostic}

theorem coloring_bar : Coloring (bar true) (bar false) :=
  .paint (vanishes_of_mem_codes (by decide)) (by decide)

theorem coloring_blank (d : Diagnostic) : Coloring d.blank d.blank :=
  .of_shown (shown_repeated (by simp) _)

theorem coloring_margin (d : Diagnostic) : Coloring d.margin d.margin := by
  refine .of_shown ?_
  rw [margin]
  rcases d.location with _ | ⟨path, _ | n⟩
  · exact Shown.nil
  · exact Shown.nil
  · exact shown_toString n

theorem coloring_emptyLine (d : Diagnostic) : Coloring (d.emptyLine true) (d.emptyLine false) :=
  ((coloring_blank d).append .space).append coloring_bar

/-- A line with a bold word in front of its text. -/
theorem coloring_boldLine (d : Diagnostic) {word text : String} (hword : escape ∉ word.toList)
    (htext : escape ∉ text.toList) :
    Coloring (d.emptyLine true ++ " " ++ Paint.paint true bold word ++ " " ++ text)
      (d.emptyLine false ++ " " ++ Paint.paint false bold word ++ " " ++ text) :=
  ((((coloring_emptyLine d).append .space).append
    (.paint (vanishes_of_mem_codes (by decide)) hword)).append .space).append (.refl htext)

section Parts

variable (h : ∀ t ∈ d.texts, escape ∉ t.toList)
include h

theorem coloring_titleLine : Coloring (d.titleLine true) (d.titleLine false) := by
  have hlabel : escape ∉ ("× " ++ d.label).toList := by
    have hlabel : escape ∉ d.label.toList := h _ (by simp [texts])
    rw [String.toList_append, List.mem_append, not_or]
    exact ⟨by decide, hlabel⟩
  have htitle : escape ∉ d.title.toList := h _ (by simp [texts])
  exact ((Coloring.paint (vanishes_levelColor d.level) hlabel).append .space).append
    (.paint (vanishes_of_mem_codes (by decide)) htitle)

theorem coloring_placeLine : Coloring (d.placeLine true) (d.placeLine false) := by
  have hplace : escape ∉ (place d.location).1.toList := h _ (by simp [texts])
  exact ((((coloring_blank d).append .space).append
    (.paint (vanishes_of_mem_codes (by decide)) (by decide))).append .space).append (.refl hplace)

theorem coloring_markLine (start length : Nat) :
    Coloring (d.markLine true start length) (d.markLine false start length) := by
  have hindent : Shown (repeated " " start).toList := shown_repeated (by simp) _
  have hmarks : Shown (repeated "^" length).toList := shown_repeated (by simp) _
  have hmessage : escape ∉ (d.message.getD "").toList := by
    cases hm : d.message with
    | none => exact List.not_mem_nil
    | some message => exact h message (by simp [texts, hm])
  exact (((((coloring_emptyLine d).append .space).append (.of_shown hindent)).append
    (.paint (vanishes_levelColor d.level) (hmarks.not_mem (by decide)))).append .space).append
    (.refl hmessage)

theorem coloring_contextPart : ColoringLines (d.contextPart true) (d.contextPart false) := by
  cases hcontext : d.context with
  | none =>
    rw [contextPart_of_eq_none hcontext, contextPart_of_eq_none hcontext]
    cases hmessage : d.message with
    | none => exact .nil
    | some message =>
      have htext : escape ∉ message.toList := h message (by simp [texts, hmessage])
      exact .cons (((coloring_emptyLine d).append .space).append (.refl htext)) .nil
  | some context =>
    have htext : escape ∉ context.toList := h context (by simp [texts, hcontext])
    have hstart := (((coloring_margin d).append .space).append coloring_bar).append .space
    rw [contextPart_of_eq_some hcontext, contextPart_of_eq_some hcontext]
    refine .cons (hstart.append (.refl htext)) ?_
    split
    · exact .cons (coloring_markLine h _ _) .nil
    · exact .nil

theorem coloring_hintPart : ColoringLines (d.hintPart true) (d.hintPart false) := by
  rw [hintPart, hintPart]
  cases hhint : d.hint with
  | none => exact .nil
  | some hint =>
    have htext : escape ∉ hint.toList := h hint (by simp [texts, hhint])
    exact .cons (coloring_emptyLine d) (.cons (coloring_boldLine d (by decide) htext) .nil)

theorem coloring_diagnostic : Coloring (d.render true) (d.render false) := by
  have htop : ColoringLines [d.titleLine true, d.placeLine true, d.emptyLine true]
      [d.titleLine false, d.placeLine false, d.emptyLine false] :=
    .cons (coloring_titleLine h) (.cons (coloring_placeLine h) (.cons (coloring_emptyLine d) .nil))
  have hnotes : ColoringLines (d.notes.map (d.noteLine true)) (d.notes.map (d.noteLine false)) :=
    .map fun note hnote => coloring_boldLine d (by decide) (h note (by simp [texts, hnote]))
  have hlast : ColoringLines [""] [""] := .refl (by decide)
  rw [render, render, lines_eq, lines_eq]
  exact (((htop.append (coloring_contextPart h)).append (coloring_hintPart h)).append
    hnotes).append hlast

end Parts

end Diagnostics

/-- **Colors only add sequences.**  Without its sequences, what is shown of a record or of a
diagnostic with colors is what is shown without colors, and that has no escape character.  The
texts that are shown have none themselves; a record that is shown as JSON may have some, since they
are escaped there. -/
theorem strip_render (r : Record) (d : Diagnostic) :
    ((r.display ≠ .raw → ∀ v, r.output = some v → ∀ t ∈ v.texts, escape ∉ t.toList) →
      String.ofList (strip (r.render true).toList) = r.render false ∧
        escape ∉ (r.render false).toList) ∧
    ((∀ t ∈ d.texts, escape ∉ t.toList) →
      String.ofList (strip (d.render true).toList) = d.render false ∧
        escape ∉ (d.render false).toList) :=
  ⟨fun h => ⟨(coloring_record h).strip_eq, (coloring_record h).no_escape⟩,
    fun h => ⟨(coloring_diagnostic h).strip_eq, (coloring_diagnostic h).no_escape⟩⟩

/-- A listing with texts that look like parts of sequences, and a module that is missing. -/
theorem strip_render_nested :
    let r : Record := ⟨some (.map [("[1m", .list [.string "0m", .null])]), none, .pretty, []⟩
    let d : Diagnostic := .moduleNotFound .interactive "nope x" "nope" "nope.py" [⟨"/m"⟩]
    (∀ v, r.output = some v → ∀ t ∈ v.texts, escape ∉ t.toList) ∧
      (∀ t ∈ d.texts, escape ∉ t.toList) ∧
      r.render true = "\n\x1b[36m[1m\x1b[0m:\n" ++
        "  \x1b[34m[0]\x1b[0m: \x1b[32m\"0m\"\x1b[0m\n" ++
        "  \x1b[34m[1]\x1b[0m: \x1b[2mnull\x1b[0m\n\n" ∧
      String.ofList (strip (r.render true).toList) = r.render false ∧
      r.render false = "\n[1m:\n  [0]: \"0m\"\n  [1]: null\n\n" ∧
      d.render true ≠ d.render false ∧
      String.ofList (strip (d.render true).toList) = d.render false := by
  intro r d
  have hr : ∀ v, r.output = some v → ∀ t ∈ v.texts, escape ∉ t.toList := by
    rintro v ⟨rfl⟩
    simp [Value.texts, Value.allEntries_eq, Value.childEntries, Value.children, Value.Entry.below,
      Value.Step.texts, Value.ownTexts, escape]
  have hd : ∀ t ∈ d.texts, escape ∉ t.toList := by decide +kernel
  exact ⟨hr, hd, by decide +kernel, ((strip_render r d).1 fun _ => hr).1, by decide +kernel,
    by decide +kernel, ((strip_render r d).2 hd).1⟩

end Paint

end JsonShell
