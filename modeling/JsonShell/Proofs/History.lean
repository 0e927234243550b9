import JsonShell.History
import JsonShell.Proofs.File.Writing
import JsonShell.Proofs.Text.Lines
import JsonShell.Proofs.Text.Trim
import JsonShell.Proofs.Text.Utf8

/-!
# A history is the end of all that was recorded

A history is cut to its capacity when it is loaded and whenever a line is recorded.  It would be the
same if it was cut only once, at the end (`addAll_eq`), because cutting to the last elements does
not look at what comes before them.

The file is written whenever a line is recorded, and what is written is read back: an entry has no
line break in it, does not end with a carriage return, and is not blank (`IsEntry`).  So after any
line was recorded the file holds the history, and loading it with another capacity gives the end of
this one (`load_addAll`).
-/

set_option autoImplicit false

namespace JsonShell

/-- The text of the file at a path, none if it cannot be read. -/
def FileTree.textAt (t : FileTree) (p : Path) : String :=
  match t.readText p with
  | .ok text => text
  | .error _ => ""

namespace History

variable {α : Type} {n : Nat} {xs ys : List α} {h : History} {t : FileTree} {p : Path}
  {line : String} {lines : List String}

/-! ## The last elements -/

theorem lastN_append_lastN (n : Nat) (xs ys : List α) :
    lastN n (lastN n xs ++ ys) = lastN n (xs ++ ys) := by
  simp only [lastN, List.drop_append, List.drop_drop, List.length_append, List.length_drop]
  congr 2 <;> omega

theorem lastN_lastN (n : Nat) (xs : List α) : lastN n (lastN n xs) = lastN n xs := by
  have happend := lastN_append_lastN n xs []
  rwa [List.append_nil, List.append_nil] at happend

theorem mem_of_mem_lastN {x : α} (hx : x ∈ lastN n xs) : x ∈ xs :=
  List.mem_of_mem_drop hx

/-! ## Recording lines -/

/-- Records lines, one after the other. -/
def addAll (h : History) (t : FileTree) : List String → History × FileTree
  | [] => (h, t)
  | line :: rest => (h.add t line).1.addAll (h.add t line).2 rest

/-- What is recorded of lines. -/
def recorded (lines : List String) : List String :=
  (lines.filter fun line => !Text.isAllBlank line).map Text.trim

theorem add_of_blank (h : History) (t : FileTree) (hblank : Text.isAllBlank line = true) :
    h.add t line = (h, t) :=
  if_pos (Text.trim_eq_empty.2 hblank)

theorem add_of_not_blank (h : History) (t : FileTree) (hblank : Text.isAllBlank line = false) :
    h.add t line = (h.withEntries (h.entries ++ [Text.trim line]),
      ((h.withEntries (h.entries ++ [Text.trim line])).save t).1) := by
  refine if_neg fun hempty => ?_
  rw [Text.trim_eq_empty.1 hempty] at hblank
  cases hblank

theorem withEntries_entries (h : History) (entries : List String) :
    (h.withEntries entries).entries = lastN h.capacity entries := rfl

/-- **Cutting again and again is cutting once.** -/
theorem addAll_eq (hfits : lastN h.capacity h.entries = h.entries) :
    (h.addAll t lines).1 = h.withEntries (h.entries ++ recorded lines) := by
  induction lines generalizing h t with
  | nil =>
    show h = { h with entries := lastN h.capacity (h.entries ++ []) }
    rw [List.append_nil, hfits]
  | cons line rest ih =>
    rw [addAll]
    cases hblank : Text.isAllBlank line with
    | true =>
      rw [add_of_blank h t hblank, ih hfits, recorded, recorded, List.filter_cons_of_neg]
      rw [hblank]
      decide
    | false =>
      have hrecorded : recorded (line :: rest) = Text.trim line :: recorded rest := by
        rw [recorded, List.filter_cons_of_pos (by rw [hblank]; rfl), List.map_cons]
        rfl
      rw [add_of_not_blank h t hblank, ih (lastN_lastN _ _), withEntries_entries, hrecorded]
      show { h with entries := lastN h.capacity (lastN h.capacity _ ++ _) } =
        { h with entries := lastN h.capacity _ }
      rw [lastN_append_lastN, List.append_assoc, List.singleton_append]

/-! ## Entries -/

/-- The line is read back from the file of a history. -/
structure IsEntry (line : String) : Prop where
  no_break : '\n' ∉ line.toList
  no_return : line.toList.getLast? ≠ some '\r'
  not_blank : Text.isAllBlank line = false

theorem isEntry_trim (hbreak : '\n' ∉ line.toList) (hblank : Text.isAllBlank line = false) :
    IsEntry (Text.trim line) := by
  refine ⟨?_, ?_, ?_⟩
  · rw [Text.trim, String.toList_ofList]
    exact fun hmem => hbreak (Text.trimChars_subset _ hmem)
  · rw [Text.trim, String.toList_ofList]
    intro hlast
    exact absurd (Text.not_of_getLast?_stripChars hlast) (by decide)
  · rw [← Bool.not_eq_true, ← Text.trim_eq_empty, Text.trim_trim, Text.trim_eq_empty,
      Bool.not_eq_true]
    exact hblank

theorem isEntry_of_mem_recorded (hbreak : ∀ line ∈ lines, '\n' ∉ line.toList)
    (hline : line ∈ recorded lines) : IsEntry line := by
  obtain ⟨raw, hraw, rfl⟩ := List.mem_map.1 hline
  obtain ⟨hraw, hblank⟩ := List.mem_filter.1 hraw
  exact isEntry_trim (hbreak raw hraw) (by rwa [Bool.not_eq_true'] at hblank)

/-- What the file at a path holds of a history. -/
def stored (t : FileTree) (p : Path) : List String :=
  (Text.lines (t.textAt p)).filter fun line => !Text.isAllBlank line

theorem isEntry_of_mem_stored (hreturn : '\r' ∉ (t.textAt p).toList) (hline : line ∈ stored t p) :
    IsEntry line := by
  obtain ⟨hline, hblank⟩ := List.mem_filter.1 hline
  obtain ⟨hbreak, hsubset⟩ := Text.of_mem_lines hline
  exact ⟨hbreak, fun hlast => hreturn (hsubset (List.mem_of_mem_getLast? hlast)),
    by rwa [Bool.not_eq_true'] at hblank⟩

/-! ## Files -/

theorem load_eq (t : FileTree) (p : Path) (capacity : Nat) :
    load t p capacity =
      ⟨lastN (max capacity 1) (stored t p), max capacity 1, some p⟩ := by
  rw [load, stored, FileTree.textAt]
  cases t.readText p <;> rfl

/-- A file that a history has written holds its entries. -/
theorem stored_of_readText (hentries : ∀ e ∈ h.entries, IsEntry e)
    (hread : t.readText p = .ok h.fileText) : stored t p = h.entries := by
  have htext : t.textAt p = Text.unlines h.entries := by
    rw [FileTree.textAt, hread]
    rfl
  rw [stored, htext, Text.lines_unlines fun e he => ⟨(hentries e he).no_break,
    (hentries e he).no_return⟩, List.filter_eq_self]
  intro e he
  rw [(hentries e he).not_blank]
  rfl

theorem readText_save (hpath : h.path = some p) (hsave : (h.save t).2 = .ok ()) :
    (h.save t).1.readText p = .ok h.fileText := by
  rw [save, hpath] at hsave ⊢
  dsimp only at hsave ⊢
  split at hsave
  · cases hsave
  · split at hsave
    · cases hsave
    · rename_i written hwrite
      show written.readText p = _
      rw [FileTree.readText, FileTree.read_of_write hwrite]
      dsimp only
      rw [Utf8.decode?_encode]

/-- Whenever one of the lines is recorded, the file is written. -/
def Saves (h : History) (t : FileTree) : List String → Prop
  | [] => True
  | line :: rest =>
    (Text.isAllBlank line = false → ((h.add t line).1.save t).2 = .ok ()) ∧
      (h.add t line).1.Saves (h.add t line).2 rest

/-- **Once a line is recorded, the file holds the history**, and it goes on doing so. -/
theorem readText_addAll (hpath : h.path = some p) (hsaves : h.Saves t lines)
    (hfile : t.readText p = .ok h.fileText ∨ ∃ line ∈ lines, Text.isAllBlank line = false) :
    (h.addAll t lines).2.readText p = .ok (h.addAll t lines).1.fileText := by
  induction lines generalizing h t with
  | nil => exact hfile.resolve_right (by simp)
  | cons line rest ih =>
    -- A blank line changes neither the history nor the file, and any other writes the file anew.
    obtain ⟨hsave, hrest⟩ := hsaves
    rw [addAll]
    cases hblank : Text.isAllBlank line with
    | true =>
      rw [add_of_blank h t hblank] at hrest ⊢
      refine ih hpath hrest (hfile.imp_right ?_)
      rintro ⟨other, hother, hnot⟩
      refine ⟨other, (List.mem_cons.1 hother).resolve_left ?_, hnot⟩
      rintro rfl
      rw [hblank] at hnot
      cases hnot
    | false =>
      rw [add_of_not_blank h t hblank] at hsave hrest ⊢
      exact ih hpath hrest (.inl (readText_save hpath (hsave hblank)))

/-- **The history is the end of all that was recorded**, in memory and in its file: of the lines
that the file held and those that were recorded since, the last ones that the capacity allows.  Once
a line was recorded, the file gives them back under any capacity. -/
theorem load_addAll {capacity : Nat} (hreturn : '\r' ∉ (t.textAt p).toList)
    (hbreak : ∀ line ∈ lines, '\n' ∉ line.toList) (hsaves : (load t p capacity).Saves t lines) :
    ((load t p capacity).addAll t lines).1.entries =
        lastN (max capacity 1) (stored t p ++ recorded lines) ∧
      ((∃ line ∈ lines, Text.isAllBlank line = false) → ∀ other,
        (load ((load t p capacity).addAll t lines).2 p other).entries =
          lastN (max other 1) ((load t p capacity).addAll t lines).1.entries) := by
  have hload := load_eq t p capacity
  have hfits : lastN (load t p capacity).capacity (load t p capacity).entries =
      (load t p capacity).entries := by
    rw [hload]
    exact lastN_lastN _ _
  have hentries : ((load t p capacity).addAll t lines).1.entries =
      lastN (max capacity 1) (stored t p ++ recorded lines) := by
    rw [addAll_eq hfits, withEntries_entries, hload]
    exact lastN_append_lastN _ _ _
  refine ⟨hentries, fun hline other => ?_⟩
  have hread := readText_addAll (by rw [hload]) hsaves (.inr hline)
  have hvalid : ∀ e ∈ ((load t p capacity).addAll t lines).1.entries, IsEntry e := by
    intro e he
    rw [hentries] at he
    rcases List.mem_append.1 (mem_of_mem_lastN he) with he | he
    · exact isEntry_of_mem_stored hreturn he
    · exact isEntry_of_mem_recorded hbreak he
  rw [load_eq, stored_of_readText hvalid hread]

/-- A file of three lines, one of them blank. -/
def threeLines : FileTree :=
  (FileTree.empty []).put ["h".toList] (.file (Utf8.encode " a\n\t\nb"))

/-- Blanks in front of a stored line are kept, and so is a carriage return inside a line. -/
theorem load_addAll_threeLines :
    threeLines.textAt ⟨"h"⟩ = " a\n\t\nb" ∧ '\r' ∉ (threeLines.textAt ⟨"h"⟩).toList ∧
      (load threeLines ⟨"h"⟩ 4).Saves threeLines ["c\rd ", "  ", "é"] ∧
      ((load threeLines ⟨"h"⟩ 4).addAll threeLines ["c\rd ", "  ", "é"]).1.entries =
        [" a", "b", "c\rd", "é"] ∧
      (load ((load threeLines ⟨"h"⟩ 4).addAll threeLines ["c\rd ", "  ", "é"]).2 ⟨"h"⟩ 2).entries =
        ["c\rd", "é"] := by
  have htext : threeLines.textAt ⟨"h"⟩ = " a\n\t\nb" := by decide +kernel
  have hreturn : '\r' ∉ (threeLines.textAt ⟨"h"⟩).toList := by
    rw [htext]
    decide
  have hsaves : (load threeLines ⟨"h"⟩ 4).Saves threeLines ["c\rd ", "  ", "é"] :=
    ⟨fun _ => by rfl, nofun, fun _ => by rfl, trivial⟩
  obtain ⟨hentries, hreload⟩ := load_addAll hreturn (by decide) hsaves
  have hall : ((load threeLines ⟨"h"⟩ 4).addAll threeLines ["c\rd ", "  ", "é"]).1.entries =
      [" a", "b", "c\rd", "é"] := hentries.trans (by decide +kernel)
  refine ⟨htext, hreturn, hsaves, hall,
    (hreload ⟨_, List.mem_cons_self, by decide⟩ 2).trans ?_⟩
  rw [hall]
  decide

end History

end JsonShell
