import JsonShell.Proofs.Config.LastValue
import JsonShell.Proofs.File.Component

/-!
# Paths under the home directory

A path that begins with a tilde, alone or in front of a slash, is meant to lead to the home
directory or under it: component by component, the expanded path starts with the home directory.  It
does so for every home directory, unless two slashes follow the tilde
(`startsWith_expandTilde_iff`).  What is joined to the home directory then is a path from the root,
which replaces it (`expandTilde_twoSlashes`).

The configured paths are the elements of the last list, each expanded by itself
(`modulePaths_eq_map`), so the same holds of them.
-/

set_option autoImplicit false

namespace JsonShell

namespace Config

variable {home : Path} {text : String} {lines : List String}

/-! ## Expanding a tilde -/

/-- The text is a tilde, alone or in front of a slash. -/
def IsHomeRelative (text : String) : Prop :=
  text = "~" ∨ ['~', '/'] <+: text.toList

instance (text : String) : Decidable (IsHomeRelative text) :=
  inferInstanceAs (Decidable (_ ∨ _))

theorem expandTilde_slash {rest : List Char} (h : text.toList = '~' :: '/' :: rest) :
    expandTilde text (some home) = home.join (String.ofList rest) := by
  unfold expandTilde
  rw [h]
  rfl

/-- What follows two slashes is a path from the root. -/
theorem expandTilde_twoSlashes (home : Path) (rest : String) :
    expandTilde ("~//" ++ rest) (some home) = ⟨"/" ++ rest⟩ := by
  have htext : ("~//" ++ rest).toList = '~' :: '/' :: '/' :: rest.toList := by simp
  have hrest : String.ofList ('/' :: rest.toList) = "/" ++ rest := by
    rw [← String.toList_inj]
    simp
  rw [expandTilde_slash htext, hrest, Path.join_of_head? home (by simp)]

theorem expandTilde_startsWith (h : IsHomeRelative text)
    (hslashes : ¬ ['~', '/', '/'] <+: text.toList) :
    (expandTilde text (some home)).startsWith home = true := by
  rcases h with rfl | ⟨rest, hrest⟩
  · exact home.startsWith_self
  · rw [expandTilde_slash hrest.symm]
    refine home.startsWith_join fun hhead => hslashes ?_
    rw [String.toList_ofList] at hhead
    obtain ⟨more, rfl⟩ := List.head?_eq_some_iff.1 hhead
    exact ⟨more, hrest⟩

/-- **A path that begins with a tilde is under the home directory**, unless two slashes follow the
tilde and what follows it is not there by itself. -/
theorem startsWith_expandTilde_iff (h : IsHomeRelative text) :
    (expandTilde text (some home)).startsWith home = true ↔
      ∀ rest, text = "~//" ++ rest → (⟨"/" ++ rest⟩ : Path).startsWith home = true := by
  constructor
  · rintro hstarts rest rfl
    rwa [expandTilde_twoSlashes] at hstarts
  · intro hrest
    by_cases hslashes : ['~', '/', '/'] <+: text.toList
    · obtain ⟨more, hmore⟩ := hslashes
      have htext : text = "~//" ++ String.ofList more := by
        rw [← String.toList_inj, ← hmore]
        simp
      rw [htext, expandTilde_twoSlashes]
      exact hrest _ htext
    · exact expandTilde_startsWith h hslashes

/-! ## Lists of paths -/

/-- The elements of a list of paths. -/
def elements (value : String) : List String :=
  ((Text.splitString ':' value).map Text.trim).filter (· ≠ "")

/-- The elements of the list that a line has for the paths. -/
def lineElements? (line : String) : Option (List String) :=
  (keyValue? line).bind fun (key, value) =>
    if key = "module_paths" then some (elements value) else none

/-- The elements of the last list of paths. -/
def lastElements (lines : List String) : List String :=
  (lines.filterMap lineElements?).getLast?.getD []

theorem read?_modulePaths (home : Option Path) (line : String) :
    (Setting.modulePaths home).read? line =
      (lineElements? line).map fun texts => texts.map (expandTilde · home) := by
  rw [Setting.read?, lineElements?]
  cases keyValue? line with
  | none => rfl
  | some pair =>
    have hkeys : pair.1 ∈ (Setting.modulePaths home).name.keys ↔ pair.1 = "module_paths" :=
      List.mem_singleton
    rw [Option.bind_some, Option.bind_some]
    dsimp only
    by_cases hkey : pair.1 = "module_paths"
    · rw [if_pos (hkeys.2 hkey), if_pos hkey]
      rfl
    · rw [if_neg (mt hkeys.1 hkey), if_neg hkey]
      rfl

/-- The paths are the elements of the last list, each expanded by itself. -/
theorem modulePaths_eq_map (text : String) (home : Option Path) : (parse text home).modulePaths =
    (lastElements (Text.lines text)).map (expandTilde · home) := by
  have hread : (Setting.modulePaths home).read? =
      fun line => (lineElements? line).map fun texts => texts.map (expandTilde · home) :=
    funext (read?_modulePaths home)
  rw [parse_eq_lastValues]
  show (((Text.lines text).filterMap (Setting.modulePaths home).read?).getLast?).getD [] = _
  rw [hread, ← List.map_filterMap, List.getLast?_map, lastElements]
  cases ((Text.lines text).filterMap lineElements?).getLast? <;> rfl

/-- **Paths with a tilde are under the home directory**: a text that begins with a tilde, alone or
in front of a slash, is expanded to a path that starts with the home directory, whatever that is,
and so is each configured path that is written that way.  The exception is a tilde with two slashes
after it.  It stands for what begins at the second slash, wherever the home directory is. -/
theorem parse_underHome (home : Path) :
    (∀ text, IsHomeRelative text → ((expandTilde text (some home)).startsWith home = true ↔
      ∀ rest, text = "~//" ++ rest → (⟨"/" ++ rest⟩ : Path).startsWith home = true)) ∧
    (∀ rest, expandTilde ("~//" ++ rest) (some home) = ⟨"/" ++ rest⟩) ∧
    ∀ text, (parse text (some home)).modulePaths =
        (lastElements (Text.lines text)).map (expandTilde · (some home)) ∧
      ∀ element ∈ lastElements (Text.lines text), IsHomeRelative element →
        ¬ ['~', '/', '/'] <+: element.toList →
        (expandTilde element (some home)).startsWith home = true :=
  ⟨fun _ h => startsWith_expandTilde_iff h, expandTilde_twoSlashes home, fun text =>
    ⟨modulePaths_eq_map text (some home), fun _ _ h hslashes => expandTilde_startsWith h hslashes⟩⟩

/-- A home directory with dots and slashes that say nothing, a path that goes up again, a user's
name after the tilde, and an earlier list. -/
theorem parse_underHome_dots :
    let home : Path := ⟨"./h//"⟩
    let text := "module_paths=~//old\nmodule_paths = ~ : ~/./../m/ :~other/m\n"
    IsHomeRelative "~/./../m/" ∧ ¬ ['~', '/', '/'] <+: "~/./../m/".toList ∧
      "~/./../m/" ∈ lastElements (Text.lines text) ∧
      (expandTilde "~/./../m/" (some home)).startsWith home = true ∧
      (parse text (some home)).modulePaths = [⟨"./h//"⟩, ⟨"./h//./../m/"⟩, ⟨"~other/m"⟩] := by
  intro home text
  have hrelative : IsHomeRelative "~/./../m/" := by decide
  have hslashes : ¬ ['~', '/', '/'] <+: "~/./../m/".toList := by decide
  have hmem : "~/./../m/" ∈ lastElements (Text.lines text) := by decide +kernel
  obtain ⟨hpaths, hunder⟩ := (parse_underHome home).2.2 text
  refine ⟨hrelative, hslashes, hmem, hunder _ hmem hrelative hslashes, ?_⟩
  rw [hpaths]
  decide +kernel

/-- Two slashes after the tilde lead away from the home directory. -/
theorem expandTilde_away :
    let home : Path := ⟨"/h"⟩
    IsHomeRelative "~//x" ∧ home.text ≠ "" ∧ expandTilde "~//x" (some home) = ⟨"/x"⟩ ∧
      (expandTilde "~//x" (some home)).startsWith home = false ∧
      (parse "module_paths=~//x" (some home)).modulePaths = [⟨"/x"⟩] := by
  decide +kernel

end Config

end JsonShell
