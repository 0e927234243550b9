import JsonShell.Proofs.Variable.Expansion

/-!
# Texts as characters and references

Expansion reads a text as a row of pieces: characters that stand for themselves, and references.
The text is what its pieces are written as, and its expansion is what they stand for.

A text is written from pieces in one way only.  `Reference.IsWritten` tells which rows of pieces are
read back from what they are written as: no reference by a bare name may run on into what follows,
and no dollar sign that stands for itself may start a reference.  The pieces of every text are such
a row (`Reference.isWritten_pieces`), and every such row is that of its text
(`Reference.IsWritten.pieces_eq`).  So expansion puts values for the references that were written
and leaves all other characters alone, whatever the values are (`Store.expand_flatMap_source`).
-/

set_option autoImplicit false

namespace JsonShell

/-- A part of a text: a character that stands for itself, or a reference to a variable. -/
inductive Piece where
  | char (c : Char)
  | reference (name : List Char) (braced : Bool)
deriving DecidableEq, Repr

namespace Piece

/-- The piece as it is written. -/
def source : Piece → List Char
  | .char c => [c]
  | .reference name false => '$' :: name
  | .reference name true => '$' :: '{' :: (name ++ ['}'])

/-- The name of a reference. -/
def name? : Piece → Option (List Char)
  | .char _ => none
  | .reference name _ => some name

/-- What the piece stands for. -/
def image (value : List Char → List Char) : Piece → List Char
  | .char c => [c]
  | .reference name _ => value name

theorem source_ne_nil (p : Piece) : p.source ≠ [] := by
  rcases p with c | ⟨name, _ | _⟩ <;> exact List.cons_ne_nil _ _

variable {f : Piece → List Char} {ps : List Piece}

theorem head?_flatMap (h : ∀ p ∈ ps, f p ≠ []) :
    (ps.flatMap f).head? = ps.head?.bind fun p => (f p).head? := by
  cases ps with
  | nil => rfl
  | cons p rest =>
    obtain ⟨c, tail, hp⟩ := List.exists_cons_of_ne_nil (h p List.mem_cons_self)
    rw [List.flatMap_cons, List.head?_cons, Option.bind_some, hp]
    rfl

theorem getLast?_flatMap (h : ∀ p ∈ ps, f p ≠ []) :
    (ps.flatMap f).getLast? = ps.getLast?.bind fun p => (f p).getLast? := by
  rcases List.eq_nil_or_concat ps with rfl | ⟨init, p, rfl⟩
  · rfl
  · have hp := List.getLast?_eq_some_getLast (h p (by simp))
    rw [List.concat_eq_append, List.flatMap_append, List.flatMap_singleton, List.getLast?_append,
      List.getLast?_concat, Option.bind_some, hp, Option.some_or]

end Piece

namespace Reference

/-- The pieces of the text after its first `skip` characters. -/
def piecesFrom (skip : Nat) : List Char → List Piece
  | [] => []
  | c :: rest =>
    match skip with
    | skip + 1 => piecesFrom skip rest
    | 0 =>
      if c = '$' then
        match read? rest with
        | some (name, length) =>
          .reference name (decide (name.length < length)) :: piecesFrom length rest
        | none => .char c :: piecesFrom 0 rest
      else .char c :: piecesFrom 0 rest

/-- The pieces of a text. -/
def pieces (cs : List Char) : List Piece :=
  piecesFrom 0 cs

/-- The names of the variables that a text refers to. -/
def names (cs : List Char) : List (List Char) :=
  (pieces cs).filterMap Piece.name?

variable {value : List Char → List Char} {cs name : List Char}

theorem mem_names {braced : Bool} (h : .reference name braced ∈ pieces cs) : name ∈ names cs :=
  List.mem_filterMap.2 ⟨_, h, rfl⟩

/-! ## A text and its pieces -/

theorem isNameChars_leadingName (h : leadingName cs ≠ []) : IsNameChars (leadingName cs) := by
  cases cs with
  | nil => exact absurd rfl h
  | cons c rest =>
    rw [leadingName] at h ⊢
    split at h
    · rename_i hc
      rw [if_pos hc]
      exact ⟨c, _, rfl, hc, List.all_eq_true.1 List.all_takeWhile⟩
    · exact absurd rfl h

/-- What is read after a dollar sign is a name, and it is written there, perhaps in braces. -/
theorem read?_inv {length : Nat} (h : read? cs = some (name, length)) :
    IsNameChars name ∧
      '$' :: cs = (Piece.reference name (decide (name.length < length))).source ++
        cs.drop length := by
  rw [read?.eq_def] at h
  split at h
  · rename_i rest
    dsimp only at h
    split at h
    · cases h
    · rename_i hname
      split at h
      · rename_i hclose
        obtain ⟨rfl, rfl⟩ := Prod.mk.inj (Option.some.inj h)
        refine ⟨isNameChars_leadingName (by simpa using hname), ?_⟩
        obtain ⟨tail, htail⟩ := List.head?_eq_some_iff.1 hclose
        have hdrop : rest.drop ((leadingName rest).length + 1) = tail := by
          rw [← List.drop_drop, htail]
          rfl
        have hrest := leadingName_append_drop rest
        rw [htail] at hrest
        rw [decide_eq_true (Nat.lt_add_of_pos_right Nat.two_pos), List.drop_succ_cons, hdrop]
        show '$' :: '{' :: rest = '$' :: '{' :: (leadingName rest ++ ['}'] ++ tail)
        rw [List.append_assoc, List.singleton_append, hrest]
      · cases h
  · dsimp only at h
    split at h
    · cases h
    · rename_i hname
      obtain ⟨rfl, rfl⟩ := Prod.mk.inj (Option.some.inj h)
      refine ⟨isNameChars_leadingName (by simpa using hname), ?_⟩
      rw [decide_eq_false (Nat.lt_irrefl _)]
      exact congrArg _ (leadingName_append_drop cs).symm

theorem flatMap_source_piecesFrom (skip : Nat) (cs : List Char) :
    (piecesFrom skip cs).flatMap Piece.source = cs.drop skip := by
  induction skip, cs using piecesFrom.induct with
  | case1 skip => rw [piecesFrom, List.drop_nil, List.flatMap_nil]
  | case2 c rest skip ih => exact ih
  | case3 rest name length hread ih =>
    simp only [piecesFrom, if_true, hread]
    rw [List.flatMap_cons, ih, ← (read?_inv hread).2, List.drop_zero]
  | case4 rest hread ih =>
    simp only [piecesFrom, if_true, hread]
    rw [List.flatMap_cons, ih]
    rfl
  | case5 c rest hc ih =>
    simp only [piecesFrom, if_neg hc]
    rw [List.flatMap_cons, ih]
    rfl

/-- A text is its pieces as they are written. -/
theorem flatMap_source_pieces (cs : List Char) : (pieces cs).flatMap Piece.source = cs :=
  flatMap_source_piecesFrom 0 cs

/-- Its expansion is what they stand for. -/
theorem expandFrom_eq_flatMap (value : List Char → List Char) (skip : Nat) (cs : List Char) :
    expandFrom value skip cs = (piecesFrom skip cs).flatMap (Piece.image value) := by
  induction skip, cs using piecesFrom.induct with
  | case1 skip => rw [expandFrom, piecesFrom, List.flatMap_nil]
  | case2 c rest skip ih => exact ih
  | case3 rest name length hread ih =>
    simp only [expandFrom, piecesFrom, if_true, hread]
    rw [List.flatMap_cons, ih]
    rfl
  | case4 rest hread ih =>
    simp only [expandFrom, piecesFrom, if_true, hread]
    rw [List.flatMap_cons, ih]
    rfl
  | case5 c rest hc ih =>
    simp only [expandFrom, piecesFrom, if_neg hc]
    rw [List.flatMap_cons, ih]
    rfl

/-- Only the values of the variables that a text refers to play a part in its expansion. -/
theorem expandFrom_congr {other : List Char → List Char}
    (h : ∀ name ∈ names cs, value name = other name) :
    expandFrom value 0 cs = expandFrom other 0 cs := by
  rw [expandFrom_eq_flatMap, expandFrom_eq_flatMap]
  have himage : ∀ p ∈ pieces cs, p.image value = p.image other := by
    intro p hp
    cases p with
    | char c => rfl
    | reference name braced => exact h name (mem_names hp)
  rw [← pieces, List.flatMap_def, List.map_congr_left himage, ← List.flatMap_def]

/-! ## Rows of pieces that are read back -/

/-- A reference starts here, right after a dollar sign: a name or a name in braces. -/
def Starts (cs : List Char) : Prop :=
  (∃ name rest, IsNameChars name ∧ cs = name ++ rest) ∨
    ∃ name rest, IsNameChars name ∧ cs = '{' :: (name ++ '}' :: rest)

/-- Reading what the pieces are written as gives them back: no reference by a bare name runs on into
what follows, and no dollar sign that stands for itself starts a reference. -/
def IsWritten : List Piece → Prop
  | [] => True
  | .char c :: rest => (c = '$' → ¬Starts (rest.flatMap Piece.source)) ∧ IsWritten rest
  | .reference name braced :: rest =>
    IsNameChars name ∧ (braced = false → EndsName (rest.flatMap Piece.source)) ∧ IsWritten rest

theorem read?_braced (hname : IsNameChars name) (rest : List Char) :
    read? ('{' :: (name ++ '}' :: rest)) = some (name, name.length + 2) := by
  have hends : EndsName ('}' :: rest) := endsName_cons (by decide) rest
  rw [read?, leadingName_append hname hends, List.drop_left, if_neg (by simpa using hname.ne_nil)]
  rfl

/-- Nothing is read just if no reference starts. -/
theorem read?_eq_none_iff : read? cs = none ↔ ¬Starts cs := by
  constructor
  · rintro hread (⟨name, rest, hname, rfl⟩ | ⟨name, rest, hname, rfl⟩)
    · obtain ⟨c, tail, rfl, hc, -⟩ := hname
      rw [read?] at hread
      · rw [List.cons_append, leadingName, if_pos hc] at hread
        cases hread
      · rintro other heq
        obtain ⟨rfl, -⟩ := List.cons.inj heq
        exact absurd hc (by decide)
    · rw [read?_braced hname] at hread
      cases hread
  · intro hstarts
    cases hread : read? cs with
    | none => rfl
    | some found =>
      obtain ⟨name, length⟩ := found
      obtain ⟨hname, hsource⟩ := read?_inv hread
      refine absurd ?_ hstarts
      cases hbraced : decide (name.length < length) with
      | false =>
        rw [hbraced] at hsource
        exact .inl ⟨name, _, hname, (List.cons.inj hsource).2⟩
      | true =>
        rw [hbraced] at hsource
        refine .inr ⟨name, cs.drop length, hname, (List.cons.inj hsource).2.trans ?_⟩
        show '{' :: (name ++ ['}'] ++ _) = _
        rw [List.append_assoc]
        rfl

/-- A name that is read without braces is not cut short. -/
theorem endsName_drop_leadingName (h : leadingName cs ≠ []) :
    EndsName (cs.drop (leadingName cs).length) := by
  cases cs with
  | nil => exact absurd rfl h
  | cons c rest =>
    rw [leadingName] at h ⊢
    split at h
    · rename_i hc
      have hdrop : rest.drop (rest.takeWhile isNameChar).length = rest.dropWhile isNameChar :=
        calc
          _ = (rest.takeWhile isNameChar ++ rest.dropWhile isNameChar).drop
              (rest.takeWhile isNameChar).length := by rw [List.takeWhile_append_dropWhile]
          _ = _ := List.drop_left
      rw [if_pos hc, List.length_cons, List.drop_succ_cons, hdrop]
      intro d hd
      have hnot := List.head?_dropWhile_not isNameChar rest
      rw [hd] at hnot
      exact hnot
    · exact absurd rfl h

theorem endsName_of_read? {length : Nat} (h : read? cs = some (name, length))
    (hbare : ¬name.length < length) : EndsName (cs.drop length) := by
  rw [read?.eq_def] at h
  split at h
  · dsimp only at h
    split at h
    · cases h
    · split at h
      · obtain ⟨rfl, rfl⟩ := Prod.mk.inj (Option.some.inj h)
        omega
      · cases h
  · dsimp only at h
    split at h
    · cases h
    · rename_i hname
      obtain ⟨rfl, rfl⟩ := Prod.mk.inj (Option.some.inj h)
      exact endsName_drop_leadingName (by simpa using hname)

theorem isWritten_piecesFrom (skip : Nat) (cs : List Char) : IsWritten (piecesFrom skip cs) := by
  induction skip, cs using piecesFrom.induct with
  | case1 skip =>
    rw [piecesFrom]
    trivial
  | case2 c rest skip ih => exact ih
  | case3 rest name length hread ih =>
    simp only [piecesFrom, if_true, hread]
    refine ⟨(read?_inv hread).1, fun hbare => ?_, ih⟩
    rw [flatMap_source_piecesFrom]
    exact endsName_of_read? hread (of_decide_eq_false hbare)
  | case4 rest hread ih =>
    simp only [piecesFrom, if_true, hread]
    refine ⟨fun _ => ?_, ih⟩
    rw [flatMap_source_piecesFrom, List.drop_zero]
    exact read?_eq_none_iff.1 hread
  | case5 c rest hc ih =>
    simp only [piecesFrom, if_neg hc]
    exact ⟨fun heq => absurd heq hc, ih⟩

/-- Every text is written from pieces. -/
theorem isWritten_pieces (cs : List Char) : IsWritten (pieces cs) :=
  isWritten_piecesFrom 0 cs

variable {ps : List Piece}

theorem IsWritten.isNameChars (h : IsWritten ps) {braced : Bool}
    (hmem : .reference name braced ∈ ps) : IsNameChars name := by
  induction ps with
  | nil => cases hmem
  | cons p rest ih =>
    cases p with
    | char c => exact ih h.2 ((List.mem_cons.1 hmem).resolve_left (by simp))
    | reference other braced' =>
      rcases List.mem_cons.1 hmem with heq | hmem
      · obtain ⟨rfl, -⟩ := Piece.reference.inj heq
        exact h.1
      · exact ih h.2.2 hmem

theorem isNameChars_of_mem_piecesFrom {skip : Nat} {braced : Bool}
    (h : .reference name braced ∈ piecesFrom skip cs) : IsNameChars name :=
  (isWritten_piecesFrom skip cs).isNameChars h

theorem piecesFrom_eq_drop (skip : Nat) (cs : List Char) :
    piecesFrom skip cs = piecesFrom 0 (cs.drop skip) := by
  induction cs generalizing skip with
  | nil => rw [List.drop_nil, piecesFrom, piecesFrom]
  | cons c rest ih =>
    cases skip with
    | zero => rfl
    | succ skip => rw [List.drop_succ_cons, piecesFrom, ih]

/-- The pieces after a reference that is read. -/
theorem pieces_reference {rest tail : List Char} {length : Nat}
    (hread : read? rest = some (name, length)) (htail : rest.drop length = tail) :
    pieces ('$' :: rest) =
      .reference name (decide (name.length < length)) :: pieces tail := by
  rw [pieces, piecesFrom, if_pos rfl, hread, pieces, ← htail]
  dsimp only
  rw [piecesFrom_eq_drop]

/-- **A text is written in one way**: pieces are read back from what they are written as. -/
theorem IsWritten.pieces_eq (h : IsWritten ps) : pieces (ps.flatMap Piece.source) = ps := by
  induction ps with
  | nil => rfl
  | cons p rest ih =>
    rw [List.flatMap_cons]
    cases p with
    | char c =>
      obtain ⟨hc, h⟩ := h
      show piecesFrom 0 (c :: rest.flatMap Piece.source) = _
      rw [piecesFrom]
      by_cases hdollar : c = '$'
      · rw [if_pos hdollar, read?_eq_none_iff.2 (hc hdollar)]
        exact congrArg _ (ih h)
      · rw [if_neg hdollar]
        exact congrArg _ (ih h)
    | reference name braced =>
      obtain ⟨hname, hends, h⟩ := h
      cases braced with
      | false =>
        have hread := read?_append hname (hends rfl)
        show pieces ('$' :: (name ++ rest.flatMap Piece.source)) = _
        rw [pieces_reference hread List.drop_left, decide_eq_false (Nat.lt_irrefl _), ih h]
      | true =>
        have hread := read?_braced hname (rest.flatMap Piece.source)
        have htail : ('{' :: (name ++ '}' :: rest.flatMap Piece.source)).drop (name.length + 2) =
            rest.flatMap Piece.source := by
          rw [List.drop_succ_cons, ← List.drop_drop, List.drop_left]
          rfl
        show pieces ('$' :: '{' :: (name ++ ['}'] ++ rest.flatMap Piece.source)) = _
        rw [List.append_assoc, List.singleton_append, pieces_reference hread htail,
          decide_eq_true (Nat.lt_add_of_pos_right Nat.two_pos), ih h]

end Reference

/-! ## Expansion -/

theorem toList_expand (s : Store) (text : String) :
    (s.expand text).toList = (Reference.pieces text.toList).flatMap (Piece.image s.valueOf) := by
  rw [Store.expand, String.toList_ofList, Store.expandChars, Reference.expandFrom_eq_flatMap]
  rfl

/-- **Expansion is one pass of substitution.**  Values stand for the references that a text is
written from, and all its other characters for themselves, whatever is in the values; so only what
these references stand for plays a part. -/
theorem Store.expand_flatMap_source {ps : List Piece} (h : Reference.IsWritten ps) (s : Store) :
    (s.expand (String.ofList (ps.flatMap Piece.source))).toList =
        ps.flatMap (Piece.image s.valueOf) ∧
      ∀ other : Store,
        (∀ name ∈ ps.filterMap Piece.name?, other.valueOf name = s.valueOf name) →
          other.expand (String.ofList (ps.flatMap Piece.source)) =
            s.expand (String.ofList (ps.flatMap Piece.source)) := by
  have hpieces : Reference.pieces (String.ofList (ps.flatMap Piece.source)).toList = ps := by
    rw [String.toList_ofList, h.pieces_eq]
  refine ⟨by rw [toList_expand, hpieces], fun other hother => ?_⟩
  refine congrArg String.ofList (Reference.expandFrom_congr ?_)
  rw [Reference.names, hpieces]
  exact hother

/-- Values that look like references. -/
def Sample.lookalikes : Store :=
  (Store.empty.set "x" "$y").set "y" "$\x7bx\x7d"

/-- References next to dollar signs and braces that start none. -/
def Sample.crowded : List Piece :=
  [.char '$', .reference ['x'] false, .reference ['y'] true, .char '$', .char '\x7b', .char '1',
    .char '\x7d', .reference ['n'] false, .reference ['x'] false, .char '-', .char '$',
    .char '\x7b', .char 'x', .char ' ', .char '$']

/-- Values that look like references are put in as they are, for references only. -/
theorem Store.expand_flatMap_source_lookalikes :
    Reference.IsWritten Sample.crowded ∧
      (∀ name ∈ Sample.crowded.filterMap Piece.name?,
        (Sample.lookalikes.set "z" "1").valueOf name = Sample.lookalikes.valueOf name) ∧
      Sample.lookalikes.expand "$$x$\x7by\x7d$\x7b1\x7d$n$x-$\x7bx $" =
        "$$y$\x7bx\x7d$\x7b1\x7d$y-$\x7bx $" ∧
      (Sample.lookalikes.set "z" "1").expand "$$x$\x7by\x7d$\x7b1\x7d$n$x-$\x7bx $" =
        "$$y$\x7bx\x7d$\x7b1\x7d$y-$\x7bx $" := by
  have htext : String.ofList (Sample.crowded.flatMap Piece.source) =
      "$$x$\x7by\x7d$\x7b1\x7d$n$x-$\x7bx $" := by decide +kernel
  have hpieces : Reference.pieces (Sample.crowded.flatMap Piece.source) = Sample.crowded := by
    decide +kernel
  have hwritten : Reference.IsWritten Sample.crowded := by
    rw [← hpieces]
    exact Reference.isWritten_pieces _
  have hsame : ∀ name ∈ Sample.crowded.filterMap Piece.name?,
      (Sample.lookalikes.set "z" "1").valueOf name = Sample.lookalikes.valueOf name := by
    decide +kernel
  have himage : Sample.crowded.flatMap (Piece.image Sample.lookalikes.valueOf) =
      "$$y$\x7bx\x7d$\x7b1\x7d$y-$\x7bx $".toList := by decide +kernel
  obtain ⟨hexpand, hother⟩ := Store.expand_flatMap_source hwritten Sample.lookalikes
  have hagain := hother _ hsame
  rw [himage, htext] at hexpand
  rw [htext] at hagain
  have hresult := String.toList_injective hexpand
  exact ⟨hwritten, hsame, hresult, hagain.trans hresult⟩

end JsonShell
