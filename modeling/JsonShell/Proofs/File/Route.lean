import JsonShell.Proofs.File.Writing
import JsonShell.Proofs.Text.Split

/-!
# Where paths lead

A path leads somewhere if the system takes it (`Path.IsShort`) and its pieces can be followed, one
after the other, from where it starts (`find_eq_ok_iff`).  Pieces that stay in a directory make no
difference where a directory is meant (`walk_concat_quiet`).

A directory joined with a name leads to what the directory has under that name
(`find_join_eq_ok_iff`), since the pieces of the joined path are those of the directory and the
name, but for a piece that stays.
-/

set_option autoImplicit false

namespace JsonShell

namespace Path

/-- The path can be given to the system. -/
def IsShort (p : Path) : Prop :=
  '\x00' ∉ p.text.toList ∧ FileTree.byteLength p.text.toList ≤ FileTree.maxPathLength

/-- The path of a directory; the empty path stands for the current one. -/
def orCurrent (p : Path) : Path :=
  if p.text = "" then ⟨"."⟩ else p

/-- Nothing but two empty texts is empty when put together. -/
theorem text_join_eq_empty_iff {p : Path} {q : String} :
    (p.join q).text = "" ↔ p.text = "" ∧ q = "" := by
  rw [join]
  split
  · rename_i rest hq
    have hne : q ≠ "" := by
      rintro rfl
      cases hq
    simp [hne]
  · split
    · simp [*]
    · split <;> simp [*]

end Path

namespace FileTree

variable {t : FileTree} {p d : Path} {name : String} {place next : Place} {node : Node}
  {piece : List Char}

/-! ## Pieces of paths -/

/-- A piece that stays in the directory. -/
def IsQuiet (piece : List Char) : Prop :=
  piece = [] ∨ piece = ['.']

instance (piece : List Char) : Decidable (IsQuiet piece) :=
  inferInstanceAs (Decidable (_ ∨ _))

/-- Where a path starts, and its pieces. -/
def route (t : FileTree) (cs : List Char) : Place × List (List Char) :=
  if cs.head? = some '/' then ([], Text.splitOn '/' cs.tail)
  else (t.current, Text.splitOn '/' cs)

theorem byteLength_append (cs ds : List Char) :
    byteLength (cs ++ ds) = byteLength cs + byteLength ds := by
  have hfold (n : Nat) : ds.foldl (fun n c => n + c.utf8Size) n = n + byteLength ds := by
    induction ds generalizing n with
    | nil => rfl
    | cons c ds ih =>
      rw [byteLength, List.foldl_cons, List.foldl_cons, ih, ih]
      omega
  rw [byteLength, List.foldl_append]
  exact hfold _

theorem route_of_ne {cs : List Char} (h : cs.head? ≠ some '/') :
    t.route cs = (t.current, Text.splitOn '/' cs) :=
  if_neg h

/-- A slash that is not the first character is a cut between pieces. -/
theorem route_append_cons {cs : List Char} (h : cs ≠ []) (ds : List Char) :
    t.route (cs ++ '/' :: ds) = ((t.route cs).1, (t.route cs).2 ++ Text.splitOn '/' ds) := by
  obtain ⟨c, cs, rfl⟩ := List.exists_cons_of_ne_nil h
  by_cases hc : c = '/'
  · subst hc
    exact congrArg (Prod.mk []) (Text.splitOn_append_cons cs ds)
  · rw [route_of_ne (by simpa using hc), route_of_ne (by simpa using hc),
      Text.splitOn_append_cons]

theorem pieces_eq_ok_iff {r : Place × List (List Char)} :
    t.pieces p = .ok r ↔ p.IsShort ∧ p.text ≠ "" ∧ t.route p.text.toList = r := by
  have hempty : p.text ≠ "" ↔ p.text.toList ≠ [] := by simp
  rw [hempty, Path.IsShort]
  unfold pieces
  generalize p.text.toList = cs
  dsimp only
  by_cases hnul : '\x00' ∈ cs
  · simp [hnul]
  · by_cases hlength : maxPathLength < byteLength cs
    · simp [hnul, hlength, Nat.not_le.2 hlength]
    · have hshort : byteLength cs ≤ maxPathLength := Nat.not_lt.1 hlength
      rw [if_neg (by simpa using hnul), if_neg hlength]
      rcases cs with _ | ⟨c, cs⟩
      · simp
      · by_cases hc : c = '/'
        · subst hc
          simp [hnul, hshort, route]
        · have hroute : t.route (c :: cs) = (t.current, Text.splitOn '/' (c :: cs)) :=
            route_of_ne (by simpa using hc)
          simp [hnul, hshort, hroute, hc]

/-! ## Following pieces -/

theorem find_eq_ok_iff : t.find p = .ok (place, node) ↔ p.IsShort ∧ p.text ≠ "" ∧
    t.walk (t.route p.text.toList).1 (t.route p.text.toList).2 = .ok place ∧
    t.lookup place = some node := by
  rw [find]
  cases hpieces : t.pieces p with
  | error fault =>
    constructor
    · intro h
      cases h
    · rintro ⟨hshort, hne, -⟩
      rw [pieces_eq_ok_iff.2 ⟨hshort, hne, rfl⟩] at hpieces
      cases hpieces
  | ok r =>
    obtain ⟨hshort, hne, rfl⟩ := pieces_eq_ok_iff.1 hpieces
    dsimp only
    cases hwalk : t.walk (t.route p.text.toList).1 (t.route p.text.toList).2 with
    | error fault => simp
    | ok next =>
      dsimp only
      cases hlookup : t.lookup next with
      | none =>
        constructor
        · intro h
          cases h
        · rintro ⟨-, -, hnext, hnode⟩
          obtain rfl := Except.ok.inj hnext
          rw [hlookup] at hnode
          cases hnode
      | some found =>
        constructor
        · rintro ⟨⟩
          exact ⟨hshort, hne, rfl, hlookup⟩
        · rintro ⟨-, -, hnext, hnode⟩
          obtain rfl := Except.ok.inj hnext
          rw [hlookup] at hnode
          rw [Option.some.inj hnode]

theorem walk_append_eq_ok_iff {start : Place} {front back : List (List Char)} :
    t.walk start (front ++ back) = .ok place ↔
      ∃ next, t.walk start front = .ok next ∧ t.walk next back = .ok place := by
  induction front generalizing start with
  | nil =>
    refine ⟨fun h => ⟨start, rfl, h⟩, ?_⟩
    rintro ⟨next, hnext, h⟩
    obtain rfl := Except.ok.inj hnext
    exact h
  | cons piece front ih =>
    rw [List.cons_append, walk, walk]
    cases t.step start piece with
    | error fault => simp
    | ok next => exact ih

theorem walk_singleton : t.walk place [piece] = t.step place piece := by
  rw [walk]
  cases t.step place piece <;> rfl

/-- A step is taken in a directory: it stays there, leads to the one above, or to a name in it. -/
theorem step_eq_ok_iff : t.step place piece = .ok next ↔ t.lookup place = some .directory ∧
    (IsQuiet piece ∧ next = place ∨ piece = ['.', '.'] ∧ next = place.dropLast ∨
      isSpecial piece = false ∧ byteLength piece ≤ maxNameLength ∧ next = place ++ [piece]) := by
  have hspecial : isSpecial piece = false ↔ ¬ IsQuiet piece ∧ piece ≠ ['.', '.'] := by
    simp [isSpecial, IsQuiet, and_assoc]
  have hdots : ¬ IsQuiet ['.', '.'] := by decide
  rw [step, hspecial]
  cases hlookup : t.lookup place with
  | none => simp
  | some node =>
    cases node with
    | file content => simp
    | directory =>
      dsimp only
      by_cases hquiet : IsQuiet piece
      · have hne : piece ≠ ['.', '.'] := fun heq => hdots (heq ▸ hquiet)
        have hfirst : piece = [] ∨ piece = ['.'] := hquiet
        rw [if_pos hfirst]
        simp [hquiet, hne, eq_comm]
      · have hfirst : ¬(piece = [] ∨ piece = ['.']) := hquiet
        rw [if_neg hfirst]
        by_cases hup : piece = ['.', '.']
        · simp [hup, hdots, eq_comm]
        · by_cases hlength : maxNameLength < byteLength piece
          · simp [hquiet, hup, hlength, Nat.not_le.2 hlength]
          · simp [hquiet, hup, hlength, Nat.not_lt.1 hlength, eq_comm]

/-- A piece at the end that stays makes no difference where a directory is meant. -/
theorem walk_concat_quiet {start : Place} {front : List (List Char)} (h : IsQuiet piece) :
    t.walk start (front ++ [piece]) = .ok place ∧ t.lookup place = some .directory ↔
      t.walk start front = .ok place ∧ t.lookup place = some .directory := by
  rw [walk_append_eq_ok_iff]
  have hstep {next : Place} : t.walk next [piece] = .ok place ↔
      t.lookup next = some .directory ∧ place = next := by
    have hnot : isSpecial piece = true := by
      rcases h with rfl | rfl <;> rfl
    have hup : piece ≠ ['.', '.'] := by
      rintro rfl
      exact absurd h (by decide)
    rw [walk_singleton, step_eq_ok_iff]
    simp [h, hnot, hup]
  simp only [hstep]
  constructor
  · rintro ⟨⟨next, hnext, -, rfl⟩, hdirectory⟩
    exact ⟨hnext, hdirectory⟩
  · rintro ⟨hplace, hdirectory⟩
    exact ⟨⟨place, hplace, hdirectory, rfl⟩, hdirectory⟩

/-! ## Names in directories -/

/-- The characters of a joined path, where the second one does not begin with a slash. -/
theorem toList_join (h : name.toList.head? ≠ some '/') : (d.join name).text.toList =
    if d.text = "" then name.toList
    else if d.text.toList.getLast? = some '/' then d.text.toList ++ name.toList
    else d.text.toList ++ '/' :: name.toList := by
  rw [Path.join]
  split
  · rename_i rest hrest
    rw [hrest] at h
    exact absurd rfl h
  · split
    · rfl
    · split
      · rw [String.toList_append]
      · rw [String.toList_append, String.toList_append, List.append_assoc]
        rfl

theorem head?_ne_of_not_mem {cs : List Char} (h : '/' ∉ cs) : cs.head? ≠ some '/' :=
  fun heq => h (List.mem_of_mem_head? heq)

/-- The pieces of a joined path are those of the directory and the name, but for one that stays. -/
theorem exists_route_join (h : '/' ∉ name.toList) :
    ∃ start front, t.route (d.join name).text.toList = (start, front ++ [name.toList]) ∧
      (t.route d.orCurrent.text.toList = (start, front) ∨
        ∃ piece, IsQuiet piece ∧
          t.route d.orCurrent.text.toList = (start, front ++ [piece])) := by
  have hhead := head?_ne_of_not_mem h
  have hsplit := Text.splitOn_of_not_mem h
  rw [toList_join hhead, Path.orCurrent]
  by_cases hempty : d.text = ""
  · rw [if_pos hempty, if_pos hempty, route_of_ne hhead, hsplit]
    exact ⟨t.current, [], rfl, .inr ⟨['.'], .inr rfl, rfl⟩⟩
  · have hne : d.text.toList ≠ [] := by simpa using hempty
    rw [if_neg hempty, if_neg hempty]
    generalize d.text.toList = cs at hne
    split
    · rename_i hlast
      obtain ⟨init, rfl⟩ := List.getLast?_eq_some_iff.1 hlast
      rw [List.append_assoc, List.singleton_append]
      by_cases hinit : init = []
      · subst hinit
        exact ⟨[], [], congrArg (Prod.mk []) hsplit, .inr ⟨[], .inl rfl, rfl⟩⟩
      · rw [route_append_cons hinit, route_append_cons hinit, hsplit]
        exact ⟨_, _, rfl, .inr ⟨[], .inl rfl, rfl⟩⟩
    · rw [route_append_cons hne, hsplit]
      exact ⟨_, _, rfl, .inl rfl⟩

/-- A directory can be opened if what is in it can be. -/
theorem isShort_orCurrent (h : '/' ∉ name.toList) (hshort : (d.join name).IsShort) :
    d.orCurrent.IsShort := by
  rw [Path.orCurrent]
  split
  · exact ⟨by decide, by decide⟩
  · rename_i hempty
    obtain ⟨hnul, hlength⟩ := hshort
    obtain ⟨back, hback⟩ : ∃ back, (d.join name).text.toList = d.text.toList ++ back := by
      rw [toList_join (head?_ne_of_not_mem h), if_neg hempty]
      split
      · exact ⟨_, rfl⟩
      · exact ⟨_, rfl⟩
    rw [hback] at hnul hlength
    rw [byteLength_append] at hlength
    exact ⟨fun hmem => hnul (List.mem_append_left _ hmem), by omega⟩

theorem text_orCurrent_ne_empty (d : Path) : d.orCurrent.text ≠ "" := by
  rw [Path.orCurrent]
  split
  · decide
  · assumption

/-- **A directory joined with a name leads to what the directory has under that name.** -/
theorem find_join_eq_ok_iff (hname : name ≠ "") (h : '/' ∉ name.toList) :
    t.find (d.join name) = .ok (next, node) ↔ (d.join name).IsShort ∧
      ∃ place, t.find d.orCurrent = .ok (place, .directory) ∧
        t.step place name.toList = .ok next ∧ t.lookup next = some node := by
  obtain ⟨start, front, hjoin, hroute⟩ := exists_route_join (t := t) (d := d) h
  have hne : (d.join name).text ≠ "" := fun hempty => hname (Path.text_join_eq_empty_iff.1 hempty).2
  have hwalk {place : Place} : t.walk (t.route d.orCurrent.text.toList).1
        (t.route d.orCurrent.text.toList).2 = .ok place ∧ t.lookup place = some .directory ↔
      t.walk start front = .ok place ∧ t.lookup place = some .directory := by
    rcases hroute with heq | ⟨piece, hquiet, heq⟩
    · rw [heq]
    · rw [heq]
      exact walk_concat_quiet hquiet
  rw [find_eq_ok_iff, hjoin]
  simp only [find_eq_ok_iff, hwalk, walk_append_eq_ok_iff, walk_singleton]
  constructor
  · rintro ⟨hshort, -, ⟨place, hplace, hstep⟩, hnode⟩
    exact ⟨hshort, place, ⟨isShort_orCurrent h hshort, text_orCurrent_ne_empty d, hplace,
      (step_eq_ok_iff.1 hstep).1⟩, hstep, hnode⟩
  · rintro ⟨hshort, place, ⟨-, -, hplace, -⟩, hstep, hnode⟩
    exact ⟨hshort, hne, ⟨place, hplace, hstep⟩, hnode⟩

end FileTree

end JsonShell
