import JsonShell.FailureLog
import JsonShell.Text.Blank

/-!
# Writing files

Where writing at a path writes depends on the directories on the way, so a place stands in for the
path: `WritesTo` says that the path leads to the place of a file, or of a file that can be created.
Then `update` succeeds, changes what that place holds, and changes nothing else.  What is written is
read back at the same path (`read_of_write`).

Making directories beforehand only adds to a tree (`Extends`), so a log whose path leads to a place
once its directories are there keeps leading there, and an entry makes the file longer by its text
(`bytesAt_log`).
-/

set_option autoImplicit false

namespace JsonShell

namespace FileTree

variable {t u v : FileTree} {p : Path} {place : Place}

/-! ## Trees that grow -/

/-- The directories of one tree are directories of the other one, which paths see from the same
place. -/
structure KeepsDirectories (t u : FileTree) : Prop where
  current : u.current = t.current
  directory : ∀ place, t.lookup place = some .directory → u.lookup place = some .directory

/-- All that one tree holds is in the other one, where there may be more directories. -/
structure Extends (t u : FileTree) : Prop where
  current : u.current = t.current
  lookup : ∀ place, u.lookup place = t.lookup place ∨
    t.lookup place = none ∧ u.lookup place = some .directory

theorem KeepsDirectories.trans (h : t.KeepsDirectories u) (h' : u.KeepsDirectories v) :
    t.KeepsDirectories v :=
  ⟨h'.current.trans h.current, fun place hp => h'.directory place (h.directory place hp)⟩

theorem Extends.refl (t : FileTree) : t.Extends t :=
  ⟨rfl, fun _ => .inl rfl⟩

theorem Extends.trans (h : t.Extends u) (h' : u.Extends v) : t.Extends v := by
  refine ⟨h'.current.trans h.current, fun place => ?_⟩
  rcases h.lookup place with hu | ⟨ht, hu⟩ <;> rcases h'.lookup place with hv | ⟨hu', hv⟩
  · exact .inl (hv.trans hu)
  · exact .inr ⟨hu.symm.trans hu', hv⟩
  · exact .inr ⟨ht, hv.trans hu⟩
  · rw [hu] at hu'
    cases hu'

theorem Extends.keepsDirectories (h : t.Extends u) : t.KeepsDirectories u := by
  refine ⟨h.current, fun place hp => ?_⟩
  rcases h.lookup place with heq | ⟨hnone, -⟩
  · rw [heq, hp]
  · rw [hp] at hnone
    cases hnone

/-! ## Paths in trees that grow -/

theorem step_of_keepsDirectories (h : t.KeepsDirectories u) {piece : List Char} {next : Place}
    (hstep : t.step place piece = .ok next) : u.step place piece = .ok next := by
  have hdirectory : t.lookup place = some .directory := by
    rw [step] at hstep
    split at hstep
    · cases hstep
    · cases hstep
    · assumption
  rw [step, hdirectory] at hstep
  rw [step, h.directory place hdirectory]
  exact hstep

theorem walk_of_keepsDirectories (h : t.KeepsDirectories u) {pieces : List (List Char)} :
    ∀ {start next : Place}, t.walk start pieces = .ok next → u.walk start pieces = .ok next := by
  induction pieces with
  | nil => exact fun hwalk => hwalk
  | cons piece rest ih =>
    intro start next hwalk
    rw [walk] at hwalk
    split at hwalk
    · cases hwalk
    · rename_i hstep
      rw [walk, step_of_keepsDirectories h hstep]
      exact ih hwalk

theorem target_inv {directory : Place} {name : List Char} (h : t.target p = .ok (directory, name)) :
    ∃ start pieces, t.pieces p = .ok (start, pieces) ∧
      t.walk start pieces.dropLast = .ok directory ∧ t.lookup directory = some .directory ∧
      ¬ maxNameLength < byteLength name ∧ name = pieces.getLastD [] := by
  rw [FileTree.target] at h
  split at h
  · cases h
  · rename_i start pieces hpieces
    split at h
    · cases h
    · rename_i hwalk
      split at h
      · cases h
      · cases h
      · rename_i hdirectory
        dsimp only at h
        split at h
        · cases h
        · rename_i hlength
          cases h
          exact ⟨start, pieces, hpieces, hwalk, hdirectory, hlength, rfl⟩

theorem target_of_keepsDirectories (h : t.KeepsDirectories u) {directory : Place}
    {name : List Char} (htarget : t.target p = .ok (directory, name)) :
    u.target p = .ok (directory, name) := by
  obtain ⟨start, pieces, hpieces, hwalk, hdirectory, hlength, rfl⟩ := target_inv htarget
  have hpieces' : u.pieces p = .ok (start, pieces) := by
    rw [← hpieces, FileTree.pieces, FileTree.pieces, h.current]
  rw [FileTree.target, hpieces']
  dsimp only
  rw [walk_of_keepsDirectories h hwalk]
  dsimp only
  rw [h.directory directory hdirectory]
  exact if_neg hlength

/-! ## Making directories -/

theorem extends_makeDirectory (h : t.makeDirectory p = .ok u) : t.Extends u := by
  rw [makeDirectory] at h
  split at h
  · cases h
  · split at h
    · cases h
    · split at h
      · cases h
      · rename_i hnone
        cases h
        refine ⟨rfl, fun place => ?_⟩
        rw [lookup_put (by simp)]
        split
        · rename_i heq
          exact .inr ⟨heq ▸ hnone, rfl⟩
        · exact .inl rfl

theorem extends_makeLevels (levels : Nat) :
    ∀ {t u : FileTree} {p : Path}, makeLevels levels t p = .ok u → t.Extends u := by
  induction levels with
  | zero =>
    intro t u p h
    cases h
    exact .refl t
  | succ levels ih =>
    intro t u p h
    rw [makeLevels] at h
    -- A directory that cannot be made may be there already.
    have hthere : ∀ {t u : FileTree} {fault : FileFault},
        (if t.isDirectory p then .ok t else .error fault : Except FileFault FileTree) = .ok u →
          t.Extends u := by
      intro t u fault h
      split at h <;> cases h
      exact .refl _
    split at h
    · cases h
      exact .refl t
    · split at h
      · rename_i hmade
        cases h
        exact extends_makeDirectory hmade
      · split at h
        · cases h
        · rename_i hparent
          refine (ih hparent).trans ?_
          split at h
          · rename_i hmade
            cases h
            exact extends_makeDirectory hmade
          · exact hthere h
      · exact hthere h

/-- The tree with the directory that a file is to be written in, if it can be made. -/
def withParent (t : FileTree) (p : Path) : FileTree :=
  (t.makeParent p).toOption.getD t

theorem extends_withParent (t : FileTree) (p : Path) : t.Extends (t.withParent p) := by
  rw [withParent]
  cases h : t.makeParent p with
  | error fault => exact .refl t
  | ok u =>
    rw [makeParent] at h
    split at h
    · cases h
      exact .refl t
    · exact extends_makeLevels _ h

/-! ## Writing at a place -/

/-- Writing at the path writes the file at the place, or creates it. -/
structure WritesTo (t : FileTree) (p : Path) (place : Place) : Prop where
  target : ∃ directory name, t.target (dropSlashes p) = .ok (directory, name) ∧
    isSpecial name = false ∧ place = directory ++ [name]
  file : p.text.toList.getLast? ≠ some '/'
  free : t.lookup place ≠ some .directory

/-- The bytes of the file at a place, none if there is no file. -/
def bytesAt (t : FileTree) (place : Place) : Bytes :=
  match t.lookup place with
  | some (.file content) => content
  | _ => []

theorem WritesTo.ne_nil (h : t.WritesTo p place) : place ≠ [] := by
  obtain ⟨directory, name, -, -, rfl⟩ := h.target
  simp

theorem WritesTo.of_keepsDirectories (h : t.WritesTo p place) (hkeeps : t.KeepsDirectories u)
    (hfree : u.lookup place ≠ some .directory) : u.WritesTo p place := by
  obtain ⟨directory, name, htarget, hname, hplace⟩ := h.target
  exact ⟨⟨directory, name, target_of_keepsDirectories hkeeps htarget, hname, hplace⟩, h.file, hfree⟩

theorem WritesTo.update_eq (h : t.WritesTo p place) (content : Bytes → Bytes) :
    t.update p content = .ok (t.put place (.file (content (t.bytesAt place)))) := by
  obtain ⟨directory, name, htarget, hname, rfl⟩ := h.target
  have hcond : ¬(isSpecial name || p.text.toList.getLast? == some '/') = true := by
    rw [hname, Bool.false_or, beq_iff_eq]
    exact h.file
  rw [update, htarget]
  dsimp only
  rw [if_neg hcond, bytesAt]
  have hfree : t.lookup (directory ++ [name]) ≠ some .directory := h.free
  revert hfree
  cases t.lookup (directory ++ [name]) with
  | none => exact fun _ => rfl
  | some node =>
    cases node with
    | file content => exact fun _ => rfl
    | directory => exact fun hfree => absurd rfl hfree

/-- A file can be put where a file can be written. -/
theorem WritesTo.keepsDirectories_put (h : t.WritesTo p place) (content : Bytes) :
    t.KeepsDirectories (t.put place (.file content)) := by
  refine ⟨rfl, fun other hother => ?_⟩
  have hne : other ≠ place := fun heq => h.free (heq ▸ hother)
  rw [lookup_put h.ne_nil, if_neg hne, hother]

/-! ## Reading what was written -/

theorem walk_concat {start next : Place} {pieces : List (List Char)} (piece : List Char)
    (h : t.walk start pieces = .ok next) :
    t.walk start (pieces ++ [piece]) = t.step next piece := by
  induction pieces generalizing start with
  | nil =>
    obtain rfl := Except.ok.inj h
    rw [List.nil_append, walk]
    cases t.step start piece <;> rfl
  | cons first rest ih =>
    rw [walk] at h
    split at h
    · cases h
    · rename_i hstep
      rw [List.cons_append, walk, hstep]
      exact ih h

theorem dropSlashes_eq_self (h : p.text.toList.getLast? ≠ some '/') : dropSlashes p = p := by
  have hlast : p.text.toList.reverse.dropWhile (· == '/') = p.text.toList.reverse := by
    refine Text.dropWhile_eq_self fun c hc => ?_
    rw [List.head?_reverse] at hc
    exact beq_false_of_ne fun heq => h (heq ▸ hc)
  rw [dropSlashes, hlast]
  split
  · rfl
  · rw [List.reverse_reverse, String.ofList_toList]

/-- A file that is put where the path writes is read at the path. -/
theorem WritesTo.read_put (h : t.WritesTo p place) (content : Bytes) :
    (t.put place (.file content)).read p = .ok content := by
  obtain ⟨directory, name, htarget, hname, rfl⟩ := h.target
  have hkeeps := h.keepsDirectories_put content
  rw [dropSlashes_eq_self h.file] at htarget
  obtain ⟨start, pieces, hpieces, hwalk, hdirectory, hlength, rfl⟩ := target_inv htarget
  have hne : pieces ≠ [] := by
    rintro rfl
    cases hname
  have hlast : pieces.dropLast ++ [pieces.getLastD []] = pieces := by
    rw [List.getLastD_eq_getLast?, List.getLast?_eq_some_getLast hne, Option.getD_some,
      List.dropLast_concat_getLast hne]
  simp only [isSpecial, Bool.or_eq_false_iff, decide_eq_false_iff_not] at hname
  obtain ⟨⟨hempty, hdot⟩, hup⟩ := hname
  have hpieces' : (t.put (directory ++ [pieces.getLastD []]) (.file content)).pieces p =
      .ok (start, pieces) := hpieces
  have hwalk' : (t.put (directory ++ [pieces.getLastD []]) (.file content)).walk start pieces =
      .ok (directory ++ [pieces.getLastD []]) := by
    have hconcat := walk_concat (pieces.getLastD []) (walk_of_keepsDirectories hkeeps hwalk)
    rw [hlast] at hconcat
    rw [hconcat, step, hkeeps.directory directory hdirectory]
    dsimp only
    rw [if_neg (not_or.2 ⟨hempty, hdot⟩), if_neg hup, if_neg hlength]
  rw [read, find, hpieces']
  dsimp only
  rw [hwalk']
  dsimp only
  rw [lookup_put h.ne_nil, if_pos rfl]

theorem exists_writesTo_of_update {content : Bytes → Bytes} (h : t.update p content = .ok u) :
    ∃ place, t.WritesTo p place := by
  rw [update] at h
  split at h
  · cases h
  · rename_i directory name htarget
    split at h
    · cases h
    · rename_i hcond
      rw [Bool.or_eq_true, not_or, Bool.not_eq_true, beq_iff_eq] at hcond
      refine ⟨directory ++ [name], ⟨directory, name, htarget, hcond.1, rfl⟩, hcond.2, ?_⟩
      intro hdirectory
      rw [hdirectory] at h
      cases h

/-- **What is written is read back.** -/
theorem read_of_write {content : Bytes} (h : t.write p content = .ok u) :
    u.read p = .ok content := by
  rw [write] at h
  obtain ⟨place, hplace⟩ := exists_writesTo_of_update h
  rw [hplace.update_eq] at h
  obtain rfl := Except.ok.inj h
  exact hplace.read_put content

/-! ## The failure log -/

/-- A log at the path is written to the place, once the directories on the way there are made. -/
def LogsTo (t : FileTree) (p : Path) (place : Place) : Prop :=
  (t.withParent p).WritesTo p place

theorem LogsTo.bytesAt_withParent (h : t.LogsTo p place) :
    (t.withParent p).bytesAt place = t.bytesAt place := by
  rcases (extends_withParent t p).lookup place with heq | ⟨-, hdirectory⟩
  · rw [bytesAt, bytesAt, heq]
  · exact absurd hdirectory h.free

theorem LogsTo.log_eq (h : t.LogsTo p place) (time : String) (entry : LogEntry) :
    t.log p time entry = (t.withParent p).put place
      (.file (t.bytesAt place ++ Utf8.encode (entry.text time))) := by
  have happend : (t.withParent p).append p (Utf8.encode (entry.text time)) = .ok _ := h.update_eq _
  show ((t.withParent p).append p (Utf8.encode (entry.text time))).toOption.getD _ = _
  rw [happend, h.bytesAt_withParent]
  rfl

/-- An entry leaves the log where it is. -/
theorem LogsTo.log (h : t.LogsTo p place) (time : String) (entry : LogEntry) :
    (t.log p time entry).LogsTo p place := by
  rw [h.log_eq]
  have hextends := extends_withParent ((t.withParent p).put place
    (.file (t.bytesAt place ++ Utf8.encode (entry.text time)))) p
  refine WritesTo.of_keepsDirectories h
    ((h.keepsDirectories_put _).trans hextends.keepsDirectories) ?_
  rcases hextends.lookup place with heq | ⟨hnone, -⟩
  · rw [heq, lookup_put h.ne_nil, if_pos rfl]
    simp
  · rw [lookup_put h.ne_nil, if_pos rfl] at hnone
    cases hnone

end FileTree

end JsonShell
