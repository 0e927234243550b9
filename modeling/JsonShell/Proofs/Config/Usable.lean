import JsonShell.Proofs.Config.LastValue
import JsonShell.Proofs.File.Route

/-!
# What is configured can be used

Whatever a configuration says, the interpreter has a name, no path of modules is empty if the home
directory is not, and each command that is run at the start is trimmed, not blank, and neither an
option nor a comment.  This is what the lines accept (`Setting.last_induction`).

The extension of modules is the exception.  It does not begin with a dot, but a value is accepted
before its dots are taken off, so the extension is empty just if the last value for it is nothing
but dots (`moduleExtension_eq_empty_iff`).
-/

set_option autoImplicit false

namespace JsonShell

namespace Config

variable {α : Type} {home : Option Path} {lines : List String} {value : String}

/-! ## Values that are accepted -/

/-- What holds of the default and of all that an option makes of values holds of its value. -/
theorem Setting.last_induction (s : Setting home α) {p : α → Prop} (hdefault : p (s.get default))
    (haccept : ∀ value a, s.accept value = some a → p a) (lines : List String) :
    p (s.last lines) := by
  rcases s.isLast_last lines with ⟨before, line, after, -, hread, -⟩ | ⟨-, heq⟩
  · obtain ⟨⟨key, value⟩, -, hvalue⟩ := Option.bind_eq_some_iff.1 hread
    dsimp only at hvalue
    split at hvalue
    · exact haccept value _ hvalue
    · cases hvalue
  · exact heq ▸ hdefault

theorem nonempty?_eq_some_iff {a : String} : nonempty? value = some a ↔ value ≠ "" ∧ value = a := by
  rw [nonempty?]
  split <;> simp_all

theorem head?_dropDots (value : String) : (dropDots value).toList.head? ≠ some '.' := by
  rw [dropDots, String.toList_ofList]
  intro hdot
  have hnot := List.head?_dropWhile_not (· == '.') value.toList
  rw [hdot] at hnot
  cases hnot

theorem dropDots_eq_empty_iff : dropDots value = "" ↔ ∀ c ∈ value.toList, c = '.' := by
  rw [dropDots, String.ofList_eq_empty_iff, List.dropWhile_eq_nil_iff]
  simp

/-! ## Paths -/

theorem expandTilde_text_ne_empty (hvalue : value ≠ "") (hhome : home ≠ some ⟨""⟩) :
    (expandTilde value home).text ≠ "" := by
  have hne {h : Path} (heq : home = some h) : h.text ≠ "" := by
    rintro hempty
    obtain ⟨text⟩ := h
    exact hhome (heq.trans (by rw [show text = "" from hempty]))
  unfold expandTilde
  split
  · exact hne rfl
  · exact fun hempty => hne rfl (Path.text_join_eq_empty_iff.1 hempty).1
  · exact hvalue

theorem text_ne_empty_of_mem_readPaths (hhome : home ≠ some ⟨""⟩) {p : Path}
    (hp : p ∈ readPaths value home) : p.text ≠ "" := by
  obtain ⟨text, htext, rfl⟩ := List.mem_map.1 hp
  exact expandTilde_text_ne_empty (by simpa using (List.mem_filter.1 htext).2) hhome

/-! ## The extension -/

/-- The last of the values for the extension that are not empty is nothing but dots. -/
def EndsInDots (lines : List String) : Prop :=
  ∃ before line after value, lines = before ++ line :: after ∧
    keyValue? line = some ("module_extension", value) ∧ value ≠ "" ∧
    (∀ c ∈ value.toList, c = '.') ∧
    ∀ other ∈ after, ∀ v, keyValue? other = some ("module_extension", v) → v = ""

theorem read?_moduleExtension_eq_some_iff {line a : String} :
    (Setting.moduleExtension home).read? line = some a ↔
      ∃ value, keyValue? line = some ("module_extension", value) ∧ value ≠ "" ∧
        dropDots value = a := by
  rw [Setting.read?, Option.bind_eq_some_iff]
  constructor
  · rintro ⟨⟨key, value⟩, hline, hread⟩
    dsimp only at hread
    split at hread
    · rename_i hkey
      obtain rfl := List.mem_singleton.1 hkey
      obtain ⟨v, hv, rfl⟩ := Option.map_eq_some_iff.1 hread
      obtain ⟨hne, rfl⟩ := nonempty?_eq_some_iff.1 hv
      exact ⟨value, hline, hne, rfl⟩
    · cases hread
  · rintro ⟨value, hline, hne, rfl⟩
    refine ⟨_, hline, ?_⟩
    show (if "module_extension" ∈ Name.moduleExtension.keys then _ else none) = _
    have hkey : "module_extension" ∈ Name.moduleExtension.keys := List.mem_singleton_self _
    rw [if_pos hkey]
    exact congrArg (Option.map dropDots) (nonempty?_eq_some_iff.2 ⟨hne, rfl⟩)

theorem read?_moduleExtension_eq_none_iff {line : String} :
    (Setting.moduleExtension home).read? line = none ↔
      ∀ v, keyValue? line = some ("module_extension", v) → v = "" := by
  rw [Option.eq_none_iff_forall_ne_some]
  simp only [ne_eq, read?_moduleExtension_eq_some_iff]
  constructor
  · exact fun h v hline => Decidable.byContradiction fun hne => h _ ⟨v, hline, hne, rfl⟩
  · rintro h a ⟨value, hline, hne, -⟩
    exact hne (h value hline)

theorem moduleExtension_eq_empty_iff :
    (Setting.moduleExtension home).last lines = "" ↔ EndsInDots lines := by
  constructor
  · intro hempty
    have hlast := (Setting.moduleExtension home).isLast_last lines
    rw [hempty] at hlast
    rcases hlast with ⟨before, line, after, hlines, hread, hafter⟩ | ⟨-, hdefault⟩
    · obtain ⟨value, hline, hne, hdots⟩ := read?_moduleExtension_eq_some_iff.1 hread
      exact ⟨before, line, after, value, hlines, hline, hne, dropDots_eq_empty_iff.1 hdots,
        fun other hother => read?_moduleExtension_eq_none_iff.1 (hafter other hother)⟩
    · have hne : "" ≠ default.moduleExtension := by decide
      exact absurd hdefault hne
  · rintro ⟨before, line, after, value, hlines, hline, hne, hdots, hafter⟩
    refine Setting.IsLast.last_eq (.inl ⟨before, line, after, hlines, ?_, fun other hother => ?_⟩)
    · exact read?_moduleExtension_eq_some_iff.2
        ⟨value, hline, hne, dropDots_eq_empty_iff.2 hdots⟩
    · exact read?_moduleExtension_eq_none_iff.2 (hafter other hother)

theorem head?_moduleExtension :
    ((Setting.moduleExtension home).last lines).toList.head? ≠ some '.' := by
  have hdefault : default.moduleExtension.toList.head? ≠ some '.' := by decide
  refine (Setting.moduleExtension home).last_induction
    (p := fun extension => extension.toList.head? ≠ some '.') hdefault (fun value a h => ?_) lines
  obtain ⟨v, -, rfl⟩ := Option.map_eq_some_iff.1 h
  exact head?_dropDots v

/-! ## Other options and commands -/

theorem interpreter_ne_empty : (Setting.interpreter home).last lines ≠ "" := by
  have hdefault : default.interpreter ≠ "" := by decide
  refine (Setting.interpreter home).last_induction
    (p := fun name => name ≠ "") hdefault (fun value a h => ?_) lines
  obtain ⟨hne, rfl⟩ := nonempty?_eq_some_iff.1 h
  exact hne

theorem modulePaths_ne_empty (hhome : home ≠ some ⟨""⟩) :
    ∀ p ∈ (Setting.modulePaths home).last lines, p.text ≠ "" := by
  refine (Setting.modulePaths home).last_induction
    (p := fun paths => ∀ p ∈ paths, p.text ≠ "") (List.forall_mem_nil _) (fun value a h => ?_) lines
  obtain rfl := Option.some.inj h
  exact fun p hp => text_ne_empty_of_mem_readPaths hhome hp

theorem of_mem_commands {command : String} (h : command ∈ commands lines) :
    command ≠ "" ∧ Text.trim command = command ∧ '=' ∉ command.toList ∧
      command.toList.head? ≠ some '#' := by
  obtain ⟨line, hline, rfl⟩ := List.mem_map.1 h
  obtain ⟨hblank, hmem, hcomment⟩ : IsCommand line := by simpa using (List.mem_filter.1 hline).2
  refine ⟨fun hempty => ?_, Text.trim_trim line, mt mem_toList_trim.1 hmem, hcomment⟩
  rw [Text.trim_eq_empty.1 hempty] at hblank
  cases hblank

/-- **What is configured can be used**: the interpreter is not empty, the extension does not begin
with a dot, no path is empty unless the home directory is, and commands are trimmed, not empty, and
neither options nor comments.  Just an extension of nothing but dots becomes empty. -/
theorem parse_usable (text : String) (home : Option Path) :
    (parse text home).interpreter ≠ "" ∧
    (parse text home).moduleExtension.toList.head? ≠ some '.' ∧
    ((parse text home).moduleExtension = "" ↔ EndsInDots (Text.lines text)) ∧
    (home ≠ some ⟨""⟩ → ∀ p ∈ (parse text home).modulePaths, p.text ≠ "") ∧
    ∀ command ∈ (parse text home).startup,
      command ≠ "" ∧ Text.trim command = command ∧ '=' ∉ command.toList ∧
        command.toList.head? ≠ some '#' := by
  rw [parse_eq_lastValues]
  exact ⟨interpreter_ne_empty, head?_moduleExtension, moduleExtension_eq_empty_iff,
    modulePaths_ne_empty, fun _ => of_mem_commands⟩

/-- Paths made of tildes, separators and blanks, values that become empty by trimming, and a comment
after blanks. -/
theorem parse_usable_tildes :
    let home : Option Path := some ⟨"/h"⟩
    let text := "module_paths = :~: ~/ ::\npython_executable= \t\nmodule_extension=..sh\n" ++
      "module_extension = \n  # x\n \u00a0 ls \n"
    home ≠ some ⟨""⟩ ∧ (∀ p ∈ (parse text home).modulePaths, p.text ≠ "") ∧
      parse text home = { default with
        modulePaths := [⟨"/h"⟩, ⟨"/h/"⟩], moduleExtension := "sh", startup := ["ls"] } := by
  intro home text
  have hhome : home ≠ some ⟨""⟩ := by decide
  exact ⟨hhome, (parse_usable text home).2.2.2.1 hhome, by decide +kernel⟩

/-- The value is not empty, but the extension is, and it was not before. -/
theorem parse_extension_dot :
    keyValue? "module_extension=." = some ("module_extension", ".") ∧
    (parse "" none).moduleExtension = "py" ∧
    (parse "module_extension=." none).moduleExtension = "" := by
  decide +kernel

end Config

end JsonShell
