import JsonShell.Proofs.Dictionary
import JsonShell.Proofs.Module.Loader

/-!
# Which modules are listed

The modules that are listed are those that the search directories hold: a name is listed just if one
of the directories directly holds its file (`mem_namesIn_iff`).  Each name that is listed is found
(`exists_find?`), though maybe in a directory that comes before the one that it is listed for.

The name of a module is that of its file up to the last dot, which is the one before the extension
if there is none in the extension.
-/

set_option autoImplicit false

namespace JsonShell

/-! ## Names and extensions -/

namespace Path

variable {name stem extension : List Char}

theorem bne_dot_of_not_mem {cs : List Char} (h : '.' ∉ cs) : ∀ c ∈ cs, (c != '.') = true := by
  intro c hc
  rw [bne_iff_ne]
  rintro rfl
  exact h hc

/-- A file name is cut at its last dot, if that is not its first character. -/
theorem splitExtension?_append_cons (h : '.' ∉ extension) :
    splitExtension? (stem ++ '.' :: extension) =
      if stem.isEmpty then none else some (stem, extension) := by
  have hreverse : (stem ++ '.' :: extension).reverse =
      extension.reverse ++ '.' :: stem.reverse := by
    simp
  have hkept := bne_dot_of_not_mem fun hmem => h (List.mem_reverse.1 hmem)
  rw [splitExtension?, hreverse, List.dropWhile_append_of_pos hkept,
    List.takeWhile_append_of_pos hkept, List.dropWhile_cons_of_neg (by decide),
    List.takeWhile_cons_of_neg (by decide)]
  simp

theorem splitExtension?_of_not_mem (h : '.' ∉ name) : splitExtension? name = none := by
  have hkept := bne_dot_of_not_mem fun hmem => h (List.mem_reverse.1 hmem)
  have hrest : (name.reverse ++ []).dropWhile (· != '.') = [] :=
    List.dropWhile_append_of_pos hkept
  rw [List.append_nil] at hrest
  rw [splitExtension?, hrest]
  rfl

theorem splitExtension?_eq_some_iff : splitExtension? name = some (stem, extension) ↔
    stem ≠ [] ∧ '.' ∉ extension ∧ name = stem ++ '.' :: extension := by
  constructor
  · intro h
    by_cases hdot : '.' ∈ name
    · obtain ⟨back, front, heq, hback⟩ := List.eq_append_cons_of_mem (List.mem_reverse.2 hdot)
      have hname : name = front.reverse ++ '.' :: back.reverse := by
        rw [← List.reverse_reverse name, heq]
        simp
      have hlast : '.' ∉ back.reverse := fun hmem => hback (List.mem_reverse.1 hmem)
      rw [hname, splitExtension?_append_cons hlast] at h
      split at h
      · cases h
      · rename_i hne
        cases h
        exact ⟨by simpa using hne, hlast, hname⟩
    · rw [splitExtension?_of_not_mem hdot] at h
      cases h
  · rintro ⟨hne, hlast, rfl⟩
    rw [splitExtension?_append_cons hlast, if_neg (by simpa using hne)]

end Path

namespace Loader

variable {l : Loader} {t : FileTree} {name : String} {d : Path} {entry : List Char}

/-! ## Modules in directories -/

/-- A file is that of a module if it is called like one. -/
theorem extension?_and_stem_iff (hdot : '.' ∉ l.extension.toList) {file : String} :
    Path.extension? file = some l.extension ∧ Path.stem file = name ↔
      name ≠ "" ∧ file = l.fileName name := by
  rw [Path.extension?, Path.stem, Option.map_eq_some_iff]
  constructor
  · rintro ⟨⟨⟨stem, extension⟩, hsplit, hextension⟩, hname⟩
    obtain ⟨hne, -, hfile⟩ := Path.splitExtension?_eq_some_iff.1 hsplit
    rw [hsplit] at hname
    obtain rfl : String.ofList stem = name := hname
    refine ⟨by simpa using hne, ?_⟩
    rw [← String.toList_inj, toList_fileName, hfile, ← hextension, String.toList_ofList,
      String.toList_ofList]
  · rintro ⟨hne, rfl⟩
    have hsplit : Path.splitExtension? (l.fileName name).toList =
        some (name.toList, l.extension.toList) :=
      Path.splitExtension?_eq_some_iff.2 ⟨by simpa using hne, hdot, toList_fileName l name⟩
    rw [hsplit]
    exact ⟨⟨_, rfl, String.ofList_toList⟩, String.ofList_toList⟩

/-- An entry of a directory is a module if it is a file that is called like one. -/
theorem moduleName?_eq_some_iff (hdot : '.' ∉ l.extension.toList) :
    l.moduleName? t d entry = some name ↔ name ≠ "" ∧ entry = (l.fileName name).toList ∧
      t.isFile (d.join (l.fileName name)) = true := by
  have hentry : String.ofList entry = l.fileName name ↔ entry = (l.fileName name).toList := by
    rw [← String.toList_inj, String.toList_ofList]
  rw [moduleName?, Option.ite_none_right_eq_some, Option.some_inj, and_assoc,
    extension?_and_stem_iff hdot, ← hentry]
  constructor
  · rintro ⟨hfile, hne, heq⟩
    exact ⟨hne, heq, heq ▸ hfile⟩
  · rintro ⟨hne, heq, hfile⟩
    exact ⟨heq ▸ hfile, hne, heq⟩

theorem mem_namesIn_iff_moduleName? : name ∈ l.namesIn t d ↔ ∃ place entry node,
    t.find d = .ok (place, .directory) ∧ (place ++ [entry], node) ∈ t.nodes ∧
      l.moduleName? t d entry = some name := by
  rw [namesIn]
  cases hchildren : t.children d with
  | error fault =>
    constructor
    · intro h
      cases h
    · rintro ⟨place, -, -, hplace, -⟩
      rw [FileTree.children_eq_ok_iff.2 ⟨place, hplace, rfl⟩] at hchildren
      cases hchildren
  | ok entries =>
    obtain ⟨place, hplace, rfl⟩ := FileTree.children_eq_ok_iff.1 hchildren
    dsimp only
    rw [List.filterMap_map, List.mem_filterMap]
    constructor
    · rintro ⟨⟨entry, node⟩, hmem, hname⟩
      exact ⟨place, entry, node, hplace, FileTree.mem_childrenOf_iff.1 hmem, hname⟩
    · rintro ⟨other, entry, node, hother, hmem, hname⟩
      rw [hplace] at hother
      cases hother
      exact ⟨(entry, node), FileTree.mem_childrenOf_iff.2 hmem, hname⟩

/-- The modules in a directory are those whose files it holds. -/
theorem mem_namesIn_iff (ht : t.IsValid) (hd : d.text ≠ "") (hslash : '/' ∉ l.extension.toList)
    (hdot : '.' ∉ l.extension.toList) : name ∈ l.namesIn t d ↔
      name ≠ "" ∧ '/' ∉ name.toList ∧ t.HoldsFile d (l.fileName name) := by
  rw [mem_namesIn_iff_moduleName?]
  constructor
  · rintro ⟨place, entry, node, -, hmem, hname⟩
    obtain ⟨hne, rfl, hfile⟩ := (moduleName?_eq_some_iff hdot).1 hname
    have hentry : '/' ∉ (l.fileName name).toList :=
      ht.no_slash _ hmem _ (List.mem_append_right _ (List.mem_singleton_self _))
    refine ⟨hne, fun h => hentry ?_,
      (ht.isFile_join_iff (fileName_ne_empty l name) hentry).1 hfile⟩
    rw [toList_fileName]
    exact List.mem_append_left _ h
  · rintro ⟨hne, hname, hholds⟩
    obtain ⟨place, content, hplace, hfile⟩ := id hholds
    have hcurrent : d.orCurrent = d := if_neg hd
    rw [hcurrent] at hplace
    obtain ⟨-, -, -, hlookup⟩ := FileTree.find_eq_ok_iff.1 hfile
    refine ⟨place, _, _, hplace, FileTree.mem_nodes_of_lookup hlookup (by simp),
      (moduleName?_eq_some_iff hdot).2 ⟨hne, rfl, ?_⟩⟩
    exact (ht.isFile_join_iff (fileName_ne_empty l name) (not_mem_fileName hslash hname)).2 hholds

/-! ## Modules in the list -/

theorem mem_list_iff_namesIn : name ∈ l.list t ↔ ∃ d ∈ l.paths, name ∈ l.namesIn t d := by
  rw [list, Dictionary.mem_keys_ofList, List.map_map, List.mem_map]
  simp [List.mem_flatMap]

/-- A name without a slash is found, if one of the directories holds its file. -/
theorem exists_find? (ht : t.IsValid) (hslash : '/' ∉ l.extension.toList) (hne : name ≠ "")
    (hname : '/' ∉ name.toList) (hd : d ∈ l.paths) (h : t.HoldsFile d (l.fileName name)) :
    ∃ p, l.find? t name = some p := by
  have hfile : t.isFile (d.join (l.fileName name)) = true :=
    (ht.isFile_join_iff (fileName_ne_empty l name) (not_mem_fileName hslash hname)).2 h
  have hcandidate : d.join (l.fileName name) ∈ l.candidates name :=
    List.mem_append_left _ (List.mem_map_of_mem hd)
  obtain ⟨p, hp⟩ := Option.isSome_iff_exists.1 (List.find?_isSome.2 ⟨_, hcandidate, hfile⟩)
  exact ⟨p, find?_eq_some_iff.2 ⟨(isSingle_of_not_mem hname).2 hne, hp⟩⟩

/-- A name that is listed is found. -/
theorem resolves_of_mem_list (ht : t.IsValid) (hpaths : ∀ d ∈ l.paths, d.text ≠ "")
    (hslash : '/' ∉ l.extension.toList) (hdot : '.' ∉ l.extension.toList)
    (hmem : name ∈ l.list t) :
    name ≠ "" ∧ '/' ∉ name.toList ∧ ∃ p, l.find? t name = some p := by
  obtain ⟨d, hd, hname⟩ := mem_list_iff_namesIn.1 hmem
  obtain ⟨hne, hpiece, hholds⟩ := (mem_namesIn_iff ht (hpaths d hd) hslash hdot).1 hname
  exact ⟨hne, hpiece, exists_find? ht hslash hne hpiece hd hholds⟩

/-- **What is listed can be found, and what the directories hold is listed**, in order and once. -/
theorem list_resolves {l : Loader} {t : FileTree} (ht : t.IsValid)
    (hpaths : ∀ d ∈ l.paths, d.text ≠ "") (hslash : '/' ∉ l.extension.toList)
    (hdot : '.' ∉ l.extension.toList) :
    (l.list t).Pairwise (· < ·) ∧
    (∀ name ∈ l.list t, name ≠ "" ∧ '/' ∉ name.toList ∧ ∃ p, l.find? t name = some p) ∧
    ∀ name, name ≠ "" → '/' ∉ name.toList →
      (name ∈ l.list t ↔ ∃ d ∈ l.paths, t.HoldsFile d (l.fileName name)) := by
  refine ⟨(Dictionary.sorted_ofList _).keys_pairwise,
    fun name hmem => resolves_of_mem_list ht hpaths hslash hdot hmem, ?_⟩
  intro name hne hpiece
  rw [mem_list_iff_namesIn]
  refine exists_congr fun d => and_congr_right fun hd => ?_
  rw [mem_namesIn_iff ht (hpaths d hd) hslash hdot]
  exact ⟨fun h => h.2.2, fun h => ⟨hne, hpiece, h⟩⟩

/-- A module in two directories, one with a dot in its name, and a directory called like one. -/
theorem list_resolves_once :
    let l : Loader := ⟨[⟨"none"⟩, ⟨"m"⟩, ⟨"/h/"⟩], "py"⟩
    let t : FileTree := ⟨[([['h']], .directory), ([['h'], "a.py".toList], .file []),
      ([['h'], ".py".toList], .file []), ([['h'], "..py".toList], .file []), ([['m']], .directory),
      ([['m'], "a.py".toList], .file []), ([['m'], "a.b.py".toList], .file []),
      ([['m'], "d.py".toList], .directory), ([['m'], "c.txt".toList], .file [])], []⟩
    (t.IsValid ∧ (∀ d ∈ l.paths, d.text ≠ "") ∧ '/' ∉ l.extension.toList ∧
      '.' ∉ l.extension.toList) ∧
      l.list t = [".", "a", "a.b"] ∧ (∃ p, l.find? t "." = some p) ∧
      ¬ ∃ d ∈ l.paths, t.HoldsFile d (l.fileName "d") := by
  intro l t
  have ht : t.IsValid := ⟨by decide, by decide⟩
  have hpaths : ∀ d ∈ l.paths, d.text ≠ "" := by decide
  have hslash : '/' ∉ l.extension.toList := by decide
  have hdot : '.' ∉ l.extension.toList := by decide
  obtain ⟨-, hfound, hlisted⟩ := list_resolves ht hpaths hslash hdot
  have hlist : l.list t = [".", "a", "a.b"] := by decide +kernel
  rw [hlist] at hfound
  refine ⟨⟨ht, hpaths, hslash, hdot⟩, hlist, (hfound "." List.mem_cons_self).2.2, ?_⟩
  rw [← hlisted "d" (by decide) (by decide), hlist]
  decide

end Loader

end JsonShell
