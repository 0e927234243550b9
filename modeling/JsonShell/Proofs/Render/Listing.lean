import JsonShell.Proofs.Json.Printer
import JsonShell.Proofs.Text.Lines
import JsonShell.Render.Listing

/-!
# A listing has a line for each entry

The listing of a container is made of the lines of its entries at all levels, depth first
(`Listing.lines_eq_map`).  A line is told by the steps that lead to its entry and by the value of
the entry: how many steps there are says how far it is indented, the last of them is its label, and
the value is shown if it is a leaf (`Listing.entryLine`).

That is so with colors and without them.  Without colors, and if no key and no string has a line
break, a line of the text is the line of one entry (`Value.listing_entries`).
-/

set_option autoImplicit false

namespace JsonShell

theorem toList_repeated {s : String} {c : Char} (h : s.toList = [c]) (n : Nat) :
    (repeated s n).toList = List.replicate n c := by
  rw [repeated, String.toList_ofList, h, List.flatten_replicate_singleton]

theorem shown_repeated {s : String} (h : Shown s.toList) (n : Nat) :
    Shown (repeated s n).toList := by
  intro c hc
  rw [repeated, String.toList_ofList, List.mem_flatten] at hc
  obtain ⟨cs, hcs, hc⟩ := hc
  rw [(List.mem_replicate.1 hcs).2] at hc
  exact h c hc

/-- The value is an object or a list. -/
def Value.IsContainer : Value → Prop
  | .map _ | .list _ => True
  | _ => False

namespace Listing

open Value (Step Entry)

variable {colors : Bool} {level : Nat}

/-! ## Labels and leaves -/

/-- A key stands for itself, an index in brackets. -/
def stepText : Step → String
  | .key k => k
  | .index i => "[" ++ toString i ++ "]"

/-- The color of keys and that of indices. -/
def stepColor : Step → String
  | .key _ => Paint.cyan
  | .index _ => Paint.blue

/-- What a line starts with that a step leads to. -/
def stepLabel (colors : Bool) (level : Nat) (s : Step) : String :=
  label colors level (stepColor s) (stepText s)

/-- What a line ends with: a leaf after a space. -/
def leafPart (colors : Bool) (v : Value) : String :=
  match leaf? v with
  | some leaf => " " ++ Paint.paint colors leaf.2 leaf.1
  | none => ""

/-- The line of an entry whose steps start at a level. -/
def lineAt (colors : Bool) (level : Nat) (e : Entry) : String :=
  stepLabel colors (level + e.above.length) e.step ++ leafPart colors e.value

theorem lineAt_below (s : Step) (e : Entry) :
    lineAt colors level (e.below s) = lineAt colors (level + 1) e := by
  have hlength : level + (e.below s).above.length = level + 1 + e.above.length := by
    show level + (e.above.length + 1) = _
    omega
  rw [lineAt, lineAt, hlength]
  rfl

/-! ## The lines of all entries -/

/-- The lines of the entries that one step leads to. -/
def childLines (colors : Bool) (level : Nat) (p : Step × Value) : List String :=
  entryLines colors level (stepLabel colors level p.1) p.2

theorem mapLines_eq (entries : List (String × Value)) :
    mapLines colors level entries =
      (Value.map entries).children.flatMap (childLines colors level) := by
  rw [Value.children]
  induction entries with
  | nil => rfl
  | cons p rest ih =>
    obtain ⟨k, v⟩ := p
    rw [mapLines, ih, List.map_cons, List.flatMap_cons]
    rfl

theorem itemLines_eq (index : Nat) (items : List Value) : itemLines colors level index items =
    ((items.zipIdx index).map fun p => (Step.index p.2, p.1)).flatMap
      (childLines colors level) := by
  induction items generalizing index with
  | nil => rfl
  | cons v rest ih =>
    rw [itemLines, ih, List.zipIdx_cons, List.map_cons, List.flatMap_cons]
    rfl

/-- An entry has a line of its own, and those of what is in it follow. -/
theorem entryLines_eq (start : String) (v : Value) : entryLines colors level start v =
    (start ++ leafPart colors v) :: v.children.flatMap (childLines colors (level + 1)) := by
  have hcontainer : start ++ "" = start := String.append_empty
  cases v with
  | map entries => rw [entryLines, mapLines_eq, leafPart, leaf?, hcontainer]
  | list items => rw [entryLines, itemLines_eq, leafPart, leaf?, hcontainer, Value.children]
  | _ => simp [entryLines, leafLine, leafPart, leaf?, Value.children, String.append_assoc]

/-- **The lines of what is in a container are those of its entries at all levels.** -/
theorem flatMap_childLines (v : Value) (level : Nat) :
    v.children.flatMap (childLines colors level) = v.allEntries.map (lineAt colors level) := by
  induction v using Value.induction_children generalizing level with
  | step v ih =>
    rw [Value.allEntries_eq, List.map_flatMap, List.flatMap_def, List.flatMap_def]
    refine congrArg List.flatten (List.map_congr_left fun p hp => ?_)
    have hbelow : lineAt colors (level + 1) = lineAt colors level ∘ Entry.below p.1 :=
      funext fun e => (lineAt_below p.1 e).symm
    rw [childLines, entryLines_eq, ih p hp (level + 1), Value.childEntries, List.map_cons,
      List.map_map, hbelow]
    rfl

theorem lines_eq_map {v : Value} (h : v.IsContainer) :
    lines colors v = v.allEntries.map (lineAt colors 0) := by
  rw [← flatMap_childLines]
  cases v with
  | map entries => exact mapLines_eq entries
  | list items => exact itemLines_eq 0 items
  | _ => exact h.elim

/-! ## Lines without colors -/

/-- A leaf after a space; strings are in quotes, and containers are no leaves. -/
def shownLeaf : Value → String
  | .map _ | .list _ => ""
  | .string s => " \"" ++ s ++ "\""
  | .number n => " " ++ n.text
  | .bool b => " " ++ Value.boolText b
  | .null => " null"

/-- The line of an entry: two spaces for each level above it, its key or index, a colon, and its
value if that is a leaf. -/
def entryLine (e : Entry) : String :=
  repeated " " (2 * e.above.length) ++ stepText e.step ++ ":" ++ shownLeaf e.value

theorem repeated_twoSpaces (n : Nat) : repeated "  " n = repeated " " (2 * n) := by
  have hone : " ".toList = [' '] := rfl
  have htwo : "  ".toList = List.replicate 2 ' ' := rfl
  rw [← String.toList_inj, toList_repeated hone, repeated, String.toList_ofList, htwo,
    List.flatten_replicate_replicate, Nat.mul_comm]

theorem leafPart_false (v : Value) : leafPart false v = shownLeaf v := by
  cases v with
  | string s =>
    show " " ++ ("\"" ++ s ++ "\"") = " \"" ++ s ++ "\""
    rw [← String.toList_inj]
    simp
  | _ => rfl

theorem lineAt_false (e : Entry) : lineAt false 0 e = entryLine e := by
  rw [lineAt, leafPart_false, stepLabel, label, Paint.paint_false, Nat.zero_add,
    repeated_twoSpaces]
  rfl

/-- The text of a leaf has a control character only if the leaf is a string that has it. -/
theorem shown_shownLeaf {v : Value} (h : v.ownTexts = []) : Shown (shownLeaf v).toList := by
  cases v with
  | string s => cases h
  | number n => simp [shownLeaf, n.shown_text]
  | bool b => simp [shownLeaf, Value.shown_boolText]
  | _ => simp [shownLeaf]

section Characters

variable {x : Char} (hx : x.toNat < 0x20)
include hx

/-- A control character in a label is in the key. -/
theorem not_mem_stepText {s : Step} (h : ∀ t ∈ s.texts, x ∉ t.toList) :
    x ∉ (stepText s).toList := by
  cases s with
  | key k => exact h k List.mem_cons_self
  | index i => exact Shown.not_mem (by simp [stepText, shown_toDigits]) hx

/-- A control character in a leaf is in the string that it is. -/
theorem not_mem_leaf {v : Value} {leaf : String × String} (h : ∀ t ∈ v.ownTexts, x ∉ t.toList)
    (hleaf : leaf? v = some leaf) : x ∉ leaf.1.toList := by
  have hquote : x ∉ "\"".toList := Shown.not_mem (by simp) hx
  cases v with
  | string s =>
    have hs : x ∉ s.toList := h s List.mem_cons_self
    cases hleaf
    simp only [String.toList_append, List.mem_append]
    rintro ((hmem | hmem) | hmem)
    · exact hquote hmem
    · exact hs hmem
    · exact hquote hmem
  | number n =>
    cases hleaf
    exact n.shown_text.not_mem hx
  | bool b =>
    cases hleaf
    exact (Value.shown_boolText b).not_mem hx
  | null =>
    cases hleaf
    exact Shown.not_mem (by simp) hx
  | _ => cases hleaf

end Characters

theorem newline_not_mem_entryLine {e : Entry}
    (h : ∀ t ∈ e.step.texts ++ e.value.ownTexts, '\n' ∉ t.toList) :
    '\n' ∉ (entryLine e).toList := by
  have hstep : '\n' ∉ (stepText e.step).toList :=
    not_mem_stepText (by decide) fun t ht => h t (List.mem_append_left _ ht)
  have hleaf : '\n' ∉ (shownLeaf e.value).toList := by
    rw [← leafPart_false, leafPart]
    split
    · rename_i leaf heq
      have hleaf := not_mem_leaf (by decide) (fun t ht => h t (List.mem_append_right _ ht)) heq
      simp [hleaf]
    · simp
  have hspace : " ".toList = [' '] := rfl
  rw [entryLine, String.toList_append, String.toList_append, String.toList_append,
    toList_repeated hspace]
  simp [hstep, hleaf]

/-- A line ends with a colon, a quote or a character of a leaf that is no string. -/
theorem getLast?_entryLine_ne (e : Entry) : (entryLine e).toList.getLast? ≠ some '\r' := by
  have hshown : ∀ {v : Value}, v.ownTexts = [] → Shown (":" ++ shownLeaf v).toList := fun h => by
    rw [String.toList_append, Shown.append_iff]
    exact ⟨by simp, shown_shownLeaf h⟩
  have hend : (":" ++ shownLeaf e.value).toList.getLast? ≠ some '\r' := by
    cases e.value with
    | string s =>
      have hquote : "\"".toList = ['"'] := rfl
      rw [shownLeaf, String.toList_append, String.toList_append, ← List.append_assoc, hquote,
        List.getLast?_concat]
      decide
    | _ => exact fun hlast => (hshown rfl).not_mem (by decide) (List.mem_of_getLast? hlast)
  have hsome : (":" ++ shownLeaf e.value).toList.getLast? ≠ none := by
    rw [Ne, List.getLast?_eq_none_iff]
    simp
  obtain ⟨c, hc⟩ := Option.ne_none_iff_exists'.1 hsome
  rw [entryLine, String.append_assoc, String.toList_append, List.getLast?_append, hc,
    Option.some_or, ← hc]
  exact hend

end Listing

/-- **The listing of a container has one line for each of its entries, at all levels.**  The lines
come depth first, keys in their order and indices from zero.  The line of an entry has two spaces
for each container that its own container is in, its key or its index, a colon, and its value if
that is a leaf.  No key and no string has a line break. -/
theorem Value.listing_entries (v : Value) (hcontainer : v.IsContainer) (hv : v.WellFormed)
    (hbreak : ∀ t ∈ v.texts, '\n' ∉ t.toList) :
    ∃ entries : List Value.Entry,
      (∀ e, e ∈ entries ↔ v.follow? e.address = some e.value) ∧
      entries.Nodup ∧ entries.Pairwise Value.Entry.Before ∧
      v.listing false = Text.unlines (entries.map Listing.entryLine) ∧
      Text.lines (v.listing false) = entries.map Listing.entryLine := by
  have hlines : Listing.lines false v = v.allEntries.map Listing.entryLine := by
    rw [Listing.lines_eq_map hcontainer]
    exact List.map_congr_left fun e _ => Listing.lineAt_false e
  refine ⟨v.allEntries, fun e => Value.mem_allEntries_iff hv, Value.allEntries_nodup hv,
    Value.allEntries_pairwise hv, congrArg Text.unlines hlines, ?_⟩
  rw [Value.listing, hlines]
  refine Text.lines_unlines fun line hline => ?_
  obtain ⟨e, he, rfl⟩ := List.mem_map.1 hline
  exact ⟨Listing.newline_not_mem_entryLine fun t ht =>
      hbreak t (Value.texts_subset_of_mem_allEntries he ht),
    Listing.getLast?_entryLine_ne e⟩

/-- Containers in containers, an empty one among them, and a string with quotes. -/
theorem Value.listing_entries_nested :
    let v : Value := .map [("a b", .list [.string "\"x\"", .map [], .map [("", .bool true)]]),
      ("n", .ofInt (-3))]
    v.IsContainer ∧ v.WellFormed ∧ (∀ t ∈ v.texts, '\n' ∉ t.toList) ∧
      Text.lines (v.listing false) =
        ["a b:", "  [0]: \"\"x\"\"", "  [1]:", "  [2]:", "    : true", "n: -3"] ∧
      ∃ entries : List Value.Entry, entries.length = 6 ∧ entries.Nodup ∧
        entries.Pairwise Value.Entry.Before ∧
        ⟨[.key "a b", .index 2], .key "", .bool true⟩ ∈ entries := by
  intro v
  have hwell : v.WellFormed := by
    simp only [v, WellFormed, AllWellFormed, EntriesWellFormed, ofInt, Dictionary.Sorted]
    decide
  have hbreak : ∀ t ∈ v.texts, '\n' ∉ t.toList := by
    simp [v, texts, allEntries_eq, childEntries, children, Entry.below, Step.texts, ownTexts, ofInt]
  have hlines : Text.lines (v.listing false) =
      ["a b:", "  [0]: \"\"x\"\"", "  [1]:", "  [2]:", "    : true", "n: -3"] := by
    decide +kernel
  obtain ⟨entries, hmem, hnodup, horder, -, hmap⟩ :=
    Value.listing_entries v trivial hwell hbreak
  refine ⟨trivial, hwell, hbreak, hlines, entries, ?_, hnodup, horder, (hmem _).2 rfl⟩
  have hlength := congrArg List.length (hlines.symm.trans hmap)
  rw [List.length_map] at hlength
  exact hlength.symm

end JsonShell
