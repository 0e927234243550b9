import JsonShell.Module.Loader
import JsonShell.Proofs.File.Component
import JsonShell.Proofs.File.Holding

/-!
# Which modules are found

A name is looked for if it is a path of a single component: it is not empty, and between and after
its slashes there is nothing but single dots (`IsSingle`).  Without a slash only the empty name is
left out, and what is found is the file of the first search directory that holds it, or else of the
current directory (`find?_eq_some_iff_of_not_mem`).

A name with a slash at its end passes as well.  What is found then is no file of that name: it is
called like the extension, after one or two dots (`exists_dots_suffix`).
-/

set_option autoImplicit false

namespace JsonShell

namespace Loader

variable {l : Loader} {t : FileTree} {name file : String} {p : Path}

open FileTree (IsQuiet)

/-! ## Names of a single component -/

/-- After the first slash of the name, if there is one, there are only slashes and dots that say
nothing. -/
def IsSingle (name : String) : Prop :=
  name ≠ "" ∧ ∀ piece ∈ (Text.splitOn '/' name.toList).tail, IsQuiet piece

instance (name : String) : Decidable (IsSingle name) :=
  inferInstanceAs (Decidable (_ ∧ _))

theorem isSimpleName_eq_true_iff : isSimpleName name = true ↔ IsSingle name := by
  rw [isSimpleName, IsSingle, Bool.and_eq_true, decide_eq_true_eq, beq_iff_eq]
  refine and_congr_right fun hne => ?_
  rw [Path.components, Path.length_componentsOf (by simpa using hne), Nat.add_eq_right,
    List.length_eq_zero_iff, List.filterMap_eq_nil_iff]
  simp only [Path.component?_eq_none_iff]

theorem isSingle_of_not_mem (h : '/' ∉ name.toList) : IsSingle name ↔ name ≠ "" := by
  rw [IsSingle, Text.splitOn_of_not_mem h]
  simp

/-! ## The first of the directories -/

/-- The path is that of the file in the first search directory that has it, or else in the current
directory. -/
def IsFirst (l : Loader) (file : String) (has : Path → Prop) (p : Path) : Prop :=
  (∃ before d after, l.paths = before ++ d :: after ∧ (∀ e ∈ before, ¬ has e) ∧ has d ∧
    p = d.join file) ∨
  (∀ d ∈ l.paths, ¬ has d) ∧ has ⟨""⟩ ∧ p = ⟨file⟩

theorem join_empty (q : String) : (⟨""⟩ : Path).join q = ⟨q⟩ := by
  rw [Path.join]
  split
  · rfl
  · exact if_pos rfl

theorem find?_candidates_eq_some_iff {has : Path → Prop}
    (h : ∀ d : Path, t.isFile (d.join (l.fileName name)) = true ↔ has d) :
    (l.candidates name).find? t.isFile = some p ↔ l.IsFirst (l.fileName name) has p := by
  have hnot (d : Path) : (!t.isFile (d.join (l.fileName name))) = true ↔ ¬ has d := by
    rw [Bool.not_eq_true', ← h, Bool.not_eq_true]
  rw [candidates, List.find?_append, List.find?_map, Option.or_eq_some_iff, Option.map_eq_some_iff,
    Option.map_eq_none_iff, IsFirst]
  refine or_congr ?_ (and_congr ?_ ?_)
  · constructor
    · rintro ⟨d, hd, rfl⟩
      obtain ⟨hfile, before, after, hpaths, hbefore⟩ := List.find?_eq_some_iff_append.1 hd
      exact ⟨before, d, after, hpaths, fun e he => (hnot e).1 (hbefore e he), (h d).1 hfile, rfl⟩
    · rintro ⟨before, d, after, hpaths, hbefore, hd, rfl⟩
      exact ⟨d, List.find?_eq_some_iff_append.2
        ⟨(h d).2 hd, before, after, hpaths, fun e he => (hnot e).2 (hbefore e he)⟩, rfl⟩
  · rw [List.find?_eq_none]
    exact forall₂_congr fun d _ => not_congr (h d)
  · rw [List.find?_cons, ← h, join_empty, List.find?_nil]
    cases t.isFile ⟨l.fileName name⟩ <;> simp [eq_comm]

/-! ## Files of modules -/

theorem toList_fileName (l : Loader) (name : String) :
    (l.fileName name).toList = name.toList ++ '.' :: l.extension.toList := by
  rw [fileName, String.toList_append, String.toList_append, List.append_assoc]
  rfl

theorem fileName_ne_empty (l : Loader) (name : String) : l.fileName name ≠ "" := by
  have hne : (l.fileName name).toList ≠ [] := by simp [toList_fileName]
  simpa using hne

theorem not_mem_fileName (hext : '/' ∉ l.extension.toList) (h : '/' ∉ name.toList) :
    '/' ∉ (l.fileName name).toList := by
  simp [toList_fileName, hext, h]

theorem find?_eq_some_iff : l.find? t name = some p ↔
    IsSingle name ∧ (l.candidates name).find? t.isFile = some p := by
  rw [find?, ← isSimpleName_eq_true_iff]
  split <;> simp [*]

/-- A name without a slash is looked for in the directories, and the current one comes last. -/
theorem find?_eq_some_iff_of_not_mem (ht : t.IsValid) (hext : '/' ∉ l.extension.toList)
    (h : '/' ∉ name.toList) : l.find? t name = some p ↔
      name ≠ "" ∧ l.IsFirst (l.fileName name) (t.HoldsFile · (l.fileName name)) p := by
  rw [find?_eq_some_iff, isSingle_of_not_mem h, find?_candidates_eq_some_iff]
  exact fun d => ht.isFile_join_iff (fileName_ne_empty l name) (not_mem_fileName hext h)

/-! ## Names with a slash -/

theorem suffix_join (d : Path) (q : String) : q.toList <:+ (d.join q).text.toList := by
  rw [Path.join]
  split
  · exact List.suffix_rfl
  · split
    · exact List.suffix_rfl
    · split
      · rw [String.toList_append]
        exact List.suffix_append _ _
      · rw [String.toList_append]
        exact List.suffix_append _ _

theorem IsFirst.suffix {has : Path → Prop} (h : l.IsFirst file has p) :
    file.toList <:+ p.text.toList := by
  rcases h with ⟨before, d, after, -, -, -, rfl⟩ | ⟨-, -, rfl⟩
  · exact suffix_join d file
  · exact List.suffix_rfl

/-- The last piece of a name with a slash says nothing, if the name is a single component. -/
theorem IsSingle.exists_last (h : IsSingle name) (hslash : '/' ∈ name.toList) :
    ∃ front last, name.toList = front ++ '/' :: last ∧ IsQuiet last := by
  obtain ⟨last, front, heq, hlast⟩ := List.eq_append_cons_of_mem (List.mem_reverse.2 hslash)
  have hname : name.toList = front.reverse ++ '/' :: last.reverse := by
    rw [← List.reverse_reverse name.toList, heq]
    simp
  refine ⟨front.reverse, last.reverse, hname, h.2 _ ?_⟩
  obtain ⟨first, rest, hfirst⟩ :=
    List.exists_cons_of_ne_nil (Text.splitOn_ne_nil '/' front.reverse)
  rw [hname, Text.splitOn_append_cons, hfirst,
    Text.splitOn_of_not_mem (fun hmem => hlast (List.mem_reverse.1 hmem))]
  exact List.mem_append_right rest (List.mem_singleton_self _)

/-- What is found under a name with a slash is called like the extension, after one or two dots. -/
theorem exists_dots_suffix (hslash : '/' ∈ name.toList) (h : l.find? t name = some p) :
    ∃ dots, (dots = ['.'] ∨ dots = ['.', '.']) ∧
      '/' :: dots ++ l.extension.toList <:+ p.text.toList := by
  obtain ⟨hsingle, hfind⟩ := find?_eq_some_iff.1 h
  obtain ⟨front, last, hname, hlast⟩ := hsingle.exists_last hslash
  have hfile := ((find?_candidates_eq_some_iff fun _ => Iff.rfl).1 hfind).suffix
  rw [toList_fileName, hname, List.append_assoc] at hfile
  refine ⟨last ++ ['.'], ?_, ?_⟩
  · rcases hlast with rfl | rfl
    · exact .inl rfl
    · exact .inr rfl
  · have htail := (List.suffix_append front ('/' :: last ++ '.' :: l.extension.toList)).trans hfile
    simpa using htail

/-- **A module is a file of the first search directory that holds it, or else of the current
directory**, if its name has no slash.  A name with a slash is looked for if only slashes and single
dots come after the first one, and what is found is the extension after one or two dots. -/
theorem find?_name {l : Loader} {t : FileTree} (ht : t.IsValid) (hext : '/' ∉ l.extension.toList)
    (name : String) (p : Path) :
    (l.find? t name = some p ↔ IsSingle name ∧
      l.IsFirst (l.fileName name) (fun d => t.isFile (d.join (l.fileName name)) = true) p) ∧
    ('/' ∉ name.toList → (l.find? t name = some p ↔
      name ≠ "" ∧ l.IsFirst (l.fileName name) (t.HoldsFile · (l.fileName name)) p)) ∧
    ('/' ∈ name.toList → l.find? t name = some p → ∃ dots, (dots = ['.'] ∨ dots = ['.', '.']) ∧
      '/' :: dots ++ l.extension.toList <:+ p.text.toList) := by
  refine ⟨?_, find?_eq_some_iff_of_not_mem ht hext, exists_dots_suffix⟩
  rw [find?_eq_some_iff, find?_candidates_eq_some_iff fun _ => Iff.rfl]

/-- A directory that is missing, a directory called like the module, and names that end in dots. -/
theorem find?_name_dots :
    let l : Loader := ⟨[⟨"none"⟩, ⟨"m/"⟩, ⟨"/h"⟩], "py"⟩
    let t : FileTree := ⟨[([['h']], .directory), ([['h'], "..py".toList], .file []),
      ([['w']], .directory), ([['w'], ['m']], .directory),
      ([['w'], ['m'], "..py".toList], .directory)], [['w']]⟩
    (t.IsValid ∧ '/' ∉ l.extension.toList ∧ '/' ∉ ".".toList) ∧
      l.find? t "." = some ⟨"/h/..py"⟩ ∧
      l.IsFirst (l.fileName ".") (t.HoldsFile · (l.fileName ".")) ⟨"/h/..py"⟩ ∧
      l.find? t "./x" = none := by
  intro l t
  have ht : t.IsValid := ⟨by decide, by decide⟩
  have hext : '/' ∉ l.extension.toList := by decide
  have hslash : '/' ∉ ".".toList := by decide
  have hfind : l.find? t "." = some ⟨"/h/..py"⟩ := by decide +kernel
  refine ⟨⟨ht, hext, hslash⟩, hfind, (((find?_name ht hext "." _).2.1 hslash).1 hfind).2, ?_⟩
  cases h : l.find? t "./x" with
  | none => rfl
  | some p =>
    have hsingle := ((find?_name ht hext "./x" p).1.1 h).1
    exact absurd hsingle (by decide +kernel)

/-- A name with a slash is found, though no directory holds a file of that name. -/
theorem find?_trailingSlash :
    let l : Loader := ⟨[⟨"m"⟩], "py"⟩
    let t : FileTree := ⟨[([['m']], .directory), ([['m'], ['a']], .directory),
      ([['m'], ['a'], ".py".toList], .file [])], []⟩
    t.IsValid ∧ '/' ∉ l.extension.toList ∧
      '/' ∈ "a/".toList ∧ l.find? t "a/" = some ⟨"m/a/.py"⟩ := by
  intro l t
  exact ⟨⟨by decide, by decide⟩, by decide, by decide, by decide +kernel⟩

end Loader

end JsonShell
