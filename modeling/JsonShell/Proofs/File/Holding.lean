import JsonShell.Proofs.File.Route

/-!
# What directories hold

A directory holds a regular file if the path of the directory joined with the name leads to a
regular file that is directly in it (`HoldsFile`).  In a tree whose files have nothing below them
(`IsValid`) that is all that can be under such a path (`isFile_join_iff`).

Writing files and making directories keep a tree valid: there are no slashes in names, since these
are pieces of paths, and nothing is put but in directories.
-/

set_option autoImplicit false

namespace JsonShell

namespace FileTree

variable {t : FileTree} {p d : Path} {name : String} {place : Place} {node : Node}
  {piece : List Char}

/-! ## Regular files in directories -/

/-- The directory at the path directly holds a regular file of that name, which the path leads to;
the empty path is the current directory.  Paths that are too long for the system lead nowhere. -/
def HoldsFile (t : FileTree) (d : Path) (name : String) : Prop :=
  ∃ place content, t.find d.orCurrent = .ok (place, .directory) ∧
    t.find (d.join name) = .ok (place ++ [name.toList], .file content)

/-- No name in the tree has a slash in it, and only directories have something in them. -/
structure IsValid (t : FileTree) : Prop where
  no_slash : ∀ entry ∈ t.nodes, ∀ piece ∈ entry.1, '/' ∉ piece
  parent : ∀ entry ∈ t.nodes, t.lookup entry.1.dropLast = some .directory

theorem mem_nodes_of_lookup (h : t.lookup place = some node) (hne : place ≠ []) :
    (place, node) ∈ t.nodes := by
  rw [lookup, if_neg (by simpa using hne)] at h
  obtain ⟨before, after, heq, -⟩ := List.lookup_eq_some_iff.1 h
  rw [heq]
  exact List.mem_append_right _ List.mem_cons_self

theorem IsValid.lookup_dropLast (ht : t.IsValid) (h : t.lookup place = some node) :
    t.lookup place.dropLast = some .directory := by
  by_cases hne : place = []
  · subst hne
    rfl
  · exact ht.parent _ (mem_nodes_of_lookup h hne)

/-- What is in a directory is what there is at the places one name further. -/
theorem mem_childrenOf_iff :
    (piece, node) ∈ t.childrenOf place ↔ (place ++ [piece], node) ∈ t.nodes := by
  rw [childrenOf, List.mem_filterMap]
  constructor
  · rintro ⟨⟨other, found⟩, hmem, hentry⟩
    dsimp only at hentry
    cases hlast : other.getLast? with
    | none =>
      rw [hlast] at hentry
      cases hentry
    | some last =>
      rw [hlast] at hentry
      obtain ⟨rfl, heq⟩ := Option.ite_none_right_eq_some.1 hentry
      cases heq
      obtain ⟨front, rfl⟩ := List.getLast?_eq_some_iff.1 hlast
      rwa [List.dropLast_concat]
  · intro hmem
    refine ⟨_, hmem, ?_⟩
    dsimp only
    rw [List.getLast?_concat, List.dropLast_concat]
    exact if_pos rfl

theorem children_eq_ok_iff {entries : List (List Char × Node)} : t.children p = .ok entries ↔
    ∃ place, t.find p = .ok (place, .directory) ∧ t.childrenOf place = entries := by
  rw [children]
  cases t.find p with
  | error fault => simp
  | ok found =>
    obtain ⟨place, content | _⟩ := found
    · simp
    · simp

theorem isFile_eq_true_iff :
    t.isFile p = true ↔ ∃ place content, t.find p = .ok (place, .file content) := by
  rw [isFile]
  split
  · rename_i place content heq
    simp [heq]
  · rename_i hnot
    simpa using hnot

/-- **A joined path is that of a file just if the directory holds it.** -/
theorem IsValid.isFile_join_iff (ht : t.IsValid) (hname : name ≠ "") (h : '/' ∉ name.toList) :
    t.isFile (d.join name) = true ↔ t.HoldsFile d name := by
  rw [isFile_eq_true_iff]
  constructor
  · rintro ⟨next, content, hfile⟩
    obtain ⟨-, place, hplace, hstep, hnode⟩ := (find_join_eq_ok_iff hname h).1 hfile
    obtain ⟨hdirectory, ⟨-, rfl⟩ | ⟨-, rfl⟩ | ⟨-, -, rfl⟩⟩ := step_eq_ok_iff.1 hstep
    · rw [hdirectory] at hnode
      cases hnode
    · rw [ht.lookup_dropLast hdirectory] at hnode
      cases hnode
    · exact ⟨place, content, hplace, hfile⟩
  · rintro ⟨place, content, -, hfile⟩
    exact ⟨_, content, hfile⟩

/-! ## Trees stay valid -/

theorem IsValid.not_mem_of_lookup (ht : t.IsValid) (h : t.lookup place = some node) :
    ∀ piece ∈ place, '/' ∉ piece := by
  by_cases hne : place = []
  · subst hne
    exact List.forall_mem_nil _
  · exact ht.no_slash _ (mem_nodes_of_lookup h hne)

/-- The tree with nothing but the current directory is valid. -/
theorem isValid_empty (h : ∀ piece ∈ place, '/' ∉ piece) : (empty place).IsValid := by
  have hmem {other : Place} {node : Node} (h : (other, node) ∈ (empty place).nodes) :
      node = .directory ∧ ∃ n < place.length, other = place.take (n + 1) := by
    obtain ⟨n, hn, heq⟩ := List.mem_map.1 h
    cases heq
    exact ⟨rfl, n, List.mem_range.1 hn, rfl⟩
  constructor
  · rintro ⟨other, node⟩ hentry piece hpiece
    obtain ⟨-, n, -, rfl⟩ := hmem hentry
    exact h piece (List.mem_of_mem_take hpiece)
  · rintro ⟨other, node⟩ hentry
    obtain ⟨-, n, hn, rfl⟩ := hmem hentry
    have hparent : (place.take (n + 1)).dropLast = place.take n := by
      rw [List.dropLast_eq_take, List.length_take, List.take_take]
      congr 1
      omega
    dsimp only
    rw [hparent]
    by_cases hzero : n = 0
    · subst hzero
      rfl
    · have hne : place.take n ≠ [] := by
        rw [ne_eq, List.take_eq_nil_iff]
        rintro (rfl | rfl)
        · exact hzero rfl
        · cases hn
      cases hlookup : (empty place).lookup (place.take n) with
      | some node => rw [(hmem (mem_nodes_of_lookup hlookup hne)).1]
      | none =>
        -- The place is that of an entry.
        rw [lookup, if_neg (by simpa using hne), List.lookup_eq_none_iff] at hlookup
        have hentry : (place.take n, Node.directory) ∈ (empty place).nodes :=
          List.mem_map.2 ⟨n - 1, List.mem_range.2 (by omega), by rw [Nat.sub_add_cancel (by omega)]⟩
        exact absurd (hlookup _ hentry) (by simp)

/-- A node can be put in a directory, if it is not put in place of one. -/
theorem IsValid.put (ht : t.IsValid) (hparent : t.lookup place = some .directory)
    (hpiece : '/' ∉ piece) (hkeeps : t.lookup (place ++ [piece]) = some .directory →
      node = .directory) : (t.put (place ++ [piece]) node).IsValid := by
  have hne : place ++ [piece] ≠ [] := by simp
  have hentry {entry : Place × Node} (h : entry ∈ (t.put (place ++ [piece]) node).nodes) :
      entry = (place ++ [piece], node) ∨ entry ∈ t.nodes := by
    rcases List.mem_cons.1 h with h | h
    · exact .inl h
    · exact .inr (List.mem_filter.1 h).1
  -- Directories stay directories, so that all parents do.
  have hdirectory {other : Place} (h : t.lookup other = some .directory) :
      (t.put (place ++ [piece]) node).lookup other = some .directory := by
    rw [lookup_put hne]
    split
    · rename_i heq
      rw [hkeeps (heq ▸ h)]
    · exact h
  constructor
  · intro entry h q hq
    rcases hentry h with rfl | h
    · rcases List.mem_append.1 hq with hq | hq
      · exact ht.not_mem_of_lookup hparent q hq
      · rwa [List.mem_singleton.1 hq]
    · exact ht.no_slash entry h q hq
  · intro entry h
    rcases hentry h with rfl | h
    · rw [List.dropLast_concat]
      exact hdirectory hparent
    · exact hdirectory (ht.parent entry h)

theorem not_mem_of_target {directory : Place} {last : List Char}
    (h : t.target p = .ok (directory, last)) : '/' ∉ last := by
  obtain ⟨start, pieces, hpieces, -, -, -, rfl⟩ := target_inv h
  obtain ⟨-, -, hroute⟩ := pieces_eq_ok_iff.1 hpieces
  have hmem : ∀ q ∈ pieces, '/' ∉ q := by
    obtain rfl : (t.route p.text.toList).2 = pieces := by rw [hroute]
    intro q hq
    unfold route at hq
    split at hq <;> exact (Text.of_mem_splitOn hq).1
  rw [List.getLastD_eq_getLast?]
  cases hlast : pieces.getLast? with
  | none => exact List.not_mem_nil
  | some q => exact hmem q (List.mem_of_getLast? hlast)

/-- Writing a file leaves a tree valid. -/
theorem IsValid.update (ht : t.IsValid) {content : Bytes → Bytes} {u : FileTree}
    (h : t.update p content = .ok u) : u.IsValid := by
  obtain ⟨place, hplace⟩ := exists_writesTo_of_update h
  rw [hplace.update_eq] at h
  obtain rfl := Except.ok.inj h
  obtain ⟨directory, last, htarget, -, rfl⟩ := hplace.target
  obtain ⟨-, -, -, -, hdirectory, -, -⟩ := target_inv htarget
  exact ht.put hdirectory (not_mem_of_target htarget) fun heq => absurd heq hplace.free

/-- Making a directory leaves a tree valid. -/
theorem IsValid.makeDirectory (ht : t.IsValid) {u : FileTree} (h : t.makeDirectory p = .ok u) :
    u.IsValid := by
  rw [FileTree.makeDirectory] at h
  split at h
  · cases h
  · rename_i directory last htarget
    obtain ⟨-, -, -, -, hdirectory, -, -⟩ := target_inv htarget
    split at h
    · cases h
    · split at h <;> cases h
      exact ht.put hdirectory (not_mem_of_target htarget) fun _ => rfl

/-- Making a directory with those on the way to it leaves a tree valid. -/
theorem IsValid.makeLevels {levels : Nat} (ht : t.IsValid) {u : FileTree}
    (h : FileTree.makeLevels levels t p = .ok u) : u.IsValid := by
  induction levels generalizing p u with
  | zero => exact Except.ok.inj h ▸ ht
  | succ levels ih =>
    rw [FileTree.makeLevels] at h
    split at h
    · exact Except.ok.inj h ▸ ht
    · split at h
      · rename_i hmade
        exact Except.ok.inj h ▸ ht.makeDirectory hmade
      · split at h
        · cases h
        · rename_i hparents
          have hvalid := ih hparents
          split at h
          · rename_i hmade
            exact Except.ok.inj h ▸ hvalid.makeDirectory hmade
          · split at h
            · exact Except.ok.inj h ▸ hvalid
            · cases h
      · split at h
        · exact Except.ok.inj h ▸ ht
        · cases h

/-- Making the directory of a file leaves a tree valid. -/
theorem IsValid.makeParent (ht : t.IsValid) {u : FileTree} (h : t.makeParent p = .ok u) :
    u.IsValid := by
  rw [FileTree.makeParent] at h
  split at h
  · exact Except.ok.inj h ▸ ht
  · exact ht.makeLevels h

end FileTree

end JsonShell
