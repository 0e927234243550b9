import JsonShell.Proofs.Line.Word
import JsonShell.Proofs.Variable.Piece

/-!
# Words of a text and its expansion

A text and its expansion are the same row of pieces, written down and put for what it stands for.
So whatever only looks at spaces and quotes does the same to both, as long as no value has any.

This is how words and expansion go together: cutting the expansion of a text into words gives the
expansions of its words (`tokenize_expand`).  It takes that the words have the references of the
text (`Reference.Unbroken`); in `$na"me"`, for one, the text refers to `na` and its word to `name`.
-/

set_option autoImplicit false

namespace JsonShell

namespace Reference

/-! ## Rows of pieces without lone dollar signs -/

/-- Reading what the pieces are written as gives them back: only references have dollar signs, and
none by a bare name runs on into what follows. -/
def IsSpelled : List Piece → Prop
  | [] => True
  | .char c :: rest => c ≠ '$' ∧ IsSpelled rest
  | .reference name braced :: rest =>
    IsNameChars name ∧ (braced = false → EndsName (rest.flatMap Piece.source)) ∧ IsSpelled rest

instance decidableIsSpelled : DecidablePred IsSpelled
  | [] => inferInstanceAs (Decidable True)
  | .char c :: rest =>
    have := decidableIsSpelled rest
    inferInstanceAs (Decidable (c ≠ '$' ∧ IsSpelled rest))
  | .reference name braced :: rest =>
    have := decidableIsSpelled rest
    inferInstanceAs (Decidable (IsNameChars name ∧
      (braced = false → EndsName (rest.flatMap Piece.source)) ∧ IsSpelled rest))

variable {ps qs : List Piece}

theorem IsSpelled.of_append (h : IsSpelled (ps ++ qs)) : IsSpelled ps ∧ IsSpelled qs := by
  induction ps with
  | nil => exact ⟨trivial, h⟩
  | cons p rest ih =>
    cases p with
    | char c =>
      obtain ⟨hc, h⟩ := h
      obtain ⟨hrest, hqs⟩ := ih h
      exact ⟨⟨hc, hrest⟩, hqs⟩
    | reference name braced =>
      obtain ⟨hname, hends, h⟩ := h
      obtain ⟨hrest, hqs⟩ := ih h
      refine ⟨⟨hname, fun hbare => ?_, hrest⟩, hqs⟩
      have hboth : EndsName ((rest ++ qs).flatMap Piece.source) := hends hbare
      rw [List.flatMap_append] at hboth
      exact hboth.of_append

theorem IsSpelled.of_infix (h : IsSpelled qs) (hps : ps <:+: qs) : IsSpelled ps := by
  obtain ⟨before, after, rfl⟩ := hps
  exact h.of_append.1.of_append.2

theorem IsSpelled.char_ne (h : IsSpelled ps) {c : Char} (hc : .char c ∈ ps) : c ≠ '$' := by
  obtain ⟨before, after, rfl⟩ := List.append_of_mem hc
  exact h.of_append.2.1

theorem IsSpelled.isWritten (h : IsSpelled ps) : IsWritten ps := by
  induction ps with
  | nil => trivial
  | cons p rest ih =>
    cases p with
    | char c => exact ⟨fun heq => absurd heq h.1, ih h.2⟩
    | reference name braced => exact ⟨h.1, h.2.1, ih h.2.2⟩

/-- Pieces that are read back expand to what they stand for. -/
theorem IsSpelled.expandFrom_eq {value : List Char → List Char} (h : IsSpelled ps) :
    expandFrom value 0 (ps.flatMap Piece.source) = ps.flatMap (Piece.image value) := by
  rw [expandFrom_eq_flatMap, ← pieces, h.isWritten.pieces_eq]

/-- Every dollar sign of the text starts a reference, and leaving out the quotes changes none. -/
def Unbroken (cs : List Char) : Prop :=
  IsSpelled ((pieces cs).filter (· ≠ .char '"'))

instance (cs : List Char) : Decidable (Unbroken cs) :=
  inferInstanceAs (Decidable (IsSpelled _))

end Reference

/-! ## Words of pieces -/

namespace Token

/-- The word collected in reverse, unless it is empty. -/
def finishPieces (word : List Piece) : List (List Piece) :=
  if word.isEmpty then [] else [word.reverse]

/-- The words of the rest of a row of pieces, which are read as those of a line are
(`Token.scan`). -/
def scanPieces (quoted : Bool) (word : List Piece) : List Piece → List (List Piece)
  | [] => finishPieces word
  | p :: rest =>
    if p = .char '"' then scanPieces (!quoted) word rest
    else if p = .char ' ' ∧ quoted = false then finishPieces word ++ scanPieces false [] rest
    else scanPieces quoted (p :: word) rest

variable {quoted : Bool} {word ps w : List Piece} {f : Piece → List Char}

theorem mem_finishPieces (h : w ∈ finishPieces word) : w = word.reverse := by
  rw [finishPieces] at h
  split at h
  · cases h
  · exact List.mem_singleton.1 h

/-- A word is a stretch of the pieces without the quotes. -/
theorem infix_of_mem_scanPieces (h : w ∈ scanPieces quoted word ps) :
    w <:+: word.reverse ++ ps.filter (· ≠ .char '"') := by
  induction ps generalizing quoted word with
  | nil =>
    rw [mem_finishPieces h]
    exact (List.prefix_append _ _).isInfix
  | cons p rest ih =>
    rw [scanPieces] at h
    split at h
    · rename_i hquote
      rw [List.filter_cons_of_neg (by simpa using hquote)]
      exact ih h
    · rename_i hquote
      rw [List.filter_cons_of_pos (by simpa using hquote)]
      split at h
      · rcases List.mem_append.1 h with h | h
        · rw [mem_finishPieces h]
          exact (List.prefix_append _ _).isInfix
        · exact (ih h).trans ⟨word.reverse ++ [p], [], by simp⟩
      · have hpushed := ih h
        rwa [List.reverse_cons, List.append_assoc] at hpushed

theorem finish_flatMap (hword : ∀ p ∈ word, f p ≠ []) :
    finish (word.reverse.flatMap f).reverse = (finishPieces word).map (List.flatMap f) := by
  cases word with
  | nil => rfl
  | cons p rest =>
    have hne : (p :: rest).reverse.flatMap f ≠ [] := by
      intro h
      exact hword p List.mem_cons_self
        (List.flatMap_eq_nil_iff.1 h p (List.mem_reverse.2 List.mem_cons_self))
    have hempty : ((p :: rest).reverse.flatMap f).reverse.isEmpty = false := by
      rw [List.isEmpty_eq_false_iff]
      exact mt List.reverse_eq_nil_iff.1 hne
    rw [finish, hempty, List.reverse_reverse]
    rfl

/-- **Words are read alike** from all texts that have the same spaces and quotes between bare
pieces. -/
theorem scan_flatMap (hchar : ∀ c, f (.char c) = [c])
    (hreference : ∀ name braced, .reference name braced ∈ ps → IsBare (f (.reference name braced)))
    (hword : ∀ p ∈ word, f p ≠ []) :
    scan quoted (word.reverse.flatMap f).reverse (ps.flatMap f) =
      (scanPieces quoted word ps).map (List.flatMap f) := by
  induction ps generalizing quoted word with
  | nil => exact finish_flatMap hword
  | cons p rest ih =>
    have hrest : ∀ name braced, .reference name braced ∈ rest →
        IsBare (f (.reference name braced)) :=
      fun name braced h => hreference name braced (List.mem_cons_of_mem p h)
    have hpush : ∀ q : Piece, ((q :: word).reverse.flatMap f).reverse =
        (f q).reverse ++ (word.reverse.flatMap f).reverse := by
      intro q
      simp
    rw [List.flatMap_cons]
    cases p with
    | char c =>
      have hnext : ∀ p ∈ Piece.char c :: word, f p ≠ [] :=
        List.forall_mem_cons.2 ⟨by rw [hchar]; exact List.cons_ne_nil c [], hword⟩
      have hkept := @ih quoted _ hrest hnext
      rw [hpush, hchar] at hkept
      rw [hchar, List.singleton_append, scan, scanPieces]
      simp only [Piece.char.injEq]
      split
      · exact ih hrest hword
      · split
        · rw [List.map_append, ← finish_flatMap hword]
          exact congrArg _ (ih hrest (List.forall_mem_nil _))
        · exact hkept
    | reference name braced =>
      have hbare := hreference name braced List.mem_cons_self
      have hnext : ∀ p ∈ Piece.reference name braced :: word, f p ≠ [] :=
        List.forall_mem_cons.2 ⟨hbare.1, hword⟩
      rw [scan_append hbare.2, ← hpush, ih hrest hnext]
      simp [scanPieces]

end Token

theorem Piece.isBare_source {name : List Char} (hname : IsNameChars name) (braced : Bool) :
    Token.IsBare (Piece.reference name braced).source := by
  have hplain : ∀ c ∈ name, c ≠ '"' ∧ c ≠ ' ' := hname.isBare.2
  refine ⟨source_ne_nil _, fun c hc => ?_⟩
  cases braced with
  | false =>
    rcases List.mem_cons.1 hc with rfl | hc
    · decide
    · exact hplain c hc
  | true =>
    simp only [source, List.mem_cons, List.mem_append, List.not_mem_nil, or_false] at hc
    rcases hc with rfl | rfl | hc | rfl
    · decide
    · decide
    · exact hplain c hc
    · decide

/-- The value can stand for a word or a part of one: it is not empty, and neither blanks nor quotes
are in it. -/
def IsWordValue (v : List Char) : Prop :=
  v ≠ [] ∧ ∀ c ∈ v, isBlank c = false ∧ c ≠ '"'

instance (v : List Char) : Decidable (IsWordValue v) :=
  decidable_of_iff (v ≠ [] ∧ v.all fun c => !isBlank c && c != '"')
    (and_congr_right fun _ => by simp [List.all_eq_true])

theorem IsWordValue.isBare {v : List Char} (h : IsWordValue v) : Token.IsBare v := by
  refine ⟨h.1, fun c hc => ⟨(h.2 c hc).2, ?_⟩⟩
  rintro rfl
  exact absurd (h.2 _ hc).1 (by decide)

theorem IsNameChars.isWordValue {name : List Char} (h : IsNameChars name) : IsWordValue name :=
  ⟨h.ne_nil, fun c hc => ⟨isBlank_of_isNameChar (h.isNameChar c hc), (h.isBare.2 c hc).1⟩⟩

/-- Words with spaces between them do not end with a blank. -/
theorem isBlank_getLast_words {w : List Char} {rest : List (List Char)} (hw : IsWordValue w)
    (hrest : ∀ v ∈ rest, IsWordValue v) :
    ∀ c, (w ++ rest.flatMap fun v => ' ' :: v).getLast? = some c → isBlank c = false := by
  induction rest generalizing w with
  | nil =>
    intro c hc
    rw [List.flatMap_nil, List.append_nil] at hc
    exact (hw.2 c (List.mem_of_mem_getLast? hc)).1
  | cons v rest ih =>
    intro c hc
    have hv : IsWordValue v := hrest v List.mem_cons_self
    refine ih hv (fun u hu => hrest u (List.mem_cons_of_mem v hu)) c ?_
    have hlast : v ++ rest.flatMap (fun v => ' ' :: v) ≠ [] :=
      List.append_ne_nil_of_left_ne_nil hv.1 _
    rw [List.flatMap_cons, List.cons_append, List.getLast?_append,
      List.getLast?_cons_of_ne_nil hlast, List.getLast?_eq_some_getLast hlast] at hc
    rw [List.getLast?_eq_some_getLast hlast]
    exact hc

/-! ## Expansion of lines -/

section Line

variable {s : Store} {text : String}

theorem words_eq_map (cs : List Char) :
    Token.words cs =
      (Token.scanPieces false [] (Reference.pieces cs)).map (List.flatMap Piece.source) := by
  have hbare : ∀ name braced, .reference name braced ∈ Reference.pieces cs →
      Token.IsBare (Piece.reference name braced).source := fun name braced h =>
    Piece.isBare_source (Reference.isNameChars_of_mem_piecesFrom h) braced
  rw [← Token.scan_flatMap (fun _ => rfl) hbare (List.forall_mem_nil _),
    Reference.flatMap_source_pieces]
  rfl

theorem words_expand
    (hvalues : ∀ name ∈ Reference.names text.toList, IsWordValue (s.valueOf name)) :
    Token.words (s.expand text).toList =
      (Token.scanPieces false [] (Reference.pieces text.toList)).map
        (List.flatMap (Piece.image s.valueOf)) := by
  have hbare : ∀ name braced, .reference name braced ∈ Reference.pieces text.toList →
      Token.IsBare ((Piece.reference name braced).image s.valueOf) := fun name braced h =>
    (hvalues name (Reference.mem_names h)).isBare
  rw [← Token.scan_flatMap (fun _ => rfl) hbare (List.forall_mem_nil _), toList_expand]
  rfl

/-- **Words and expansion go together.**  The words of the expansion of a text are the expansions of
its words. -/
theorem tokenize_expand (hwhole : Reference.Unbroken text.toList)
    (hvalues : ∀ name ∈ Reference.names text.toList, IsWordValue (s.valueOf name)) :
    tokenize (s.expand text) = (tokenize text).map s.expand := by
  rw [tokenize, words_expand hvalues, tokenize, words_eq_map]
  simp only [List.map_map]
  refine List.map_congr_left fun w hw => ?_
  have hspelled : Reference.IsSpelled w := hwhole.of_infix (Token.infix_of_mem_scanPieces hw)
  show String.ofList (w.flatMap (Piece.image s.valueOf)) = s.expand (String.ofList _)
  rw [Store.expand, Store.expandChars, String.toList_ofList, hspelled.expandFrom_eq]

-- A quote in a name: the text refers to another variable than its word.
example : tokenize (((Store.empty.set "na" "1").set "name" "2").expand "a $na\"me\"") =
    ["a", "1me"] := by decide +kernel
example : (tokenize "a $na\"me\"").map ((Store.empty.set "na" "1").set "name" "2").expand =
    ["a", "2"] := by decide +kernel

/-- If no value has a dollar sign, none is left. -/
theorem not_mem_expand (hwhole : Reference.Unbroken text.toList)
    (hvalues : ∀ name ∈ Reference.names text.toList, '$' ∉ s.valueOf name) :
    '$' ∉ (s.expand text).toList := by
  rw [toList_expand, List.mem_flatMap]
  rintro ⟨p, hp, hmem⟩
  cases p with
  | char c =>
    obtain rfl := List.mem_singleton.1 hmem
    exact hwhole.char_ne (List.mem_filter.2 ⟨hp, by decide⟩) rfl
  | reference name braced => exact hvalues name (Reference.mem_names hp) hmem

/-- No blanks are around the expansion of a text that has none around it: at its ends there is a
character of the text itself or one of a value. -/
theorem trim_expand (htrim : Text.trim text = text)
    (hvalues : ∀ name ∈ Reference.names text.toList, IsWordValue (s.valueOf name)) :
    Text.trim (s.expand text) = s.expand text := by
  have hchars := Text.trimChars_toList htrim
  have hsource := Reference.flatMap_source_pieces text.toList
  have himage : ∀ p ∈ Reference.pieces text.toList, p.image s.valueOf ≠ [] := by
    intro p hp
    cases p with
    | char c => exact List.cons_ne_nil c []
    | reference name braced => exact (hvalues name (Reference.mem_names hp)).1
  have hplain : ∀ p ∈ Reference.pieces text.toList, ∀ c ∈ p.image s.valueOf,
      (p = .char c → isBlank c = false) → isBlank c = false := by
    intro p hp c hc hchar
    cases p with
    | char d =>
      obtain rfl := List.mem_singleton.1 hc
      exact hchar rfl
    | reference name braced => exact ((hvalues name (Reference.mem_names hp)).2 c hc).1
  refine Text.trim_eq_self (fun c hc => ?_) fun c hc => ?_
  · rw [toList_expand, Piece.head?_flatMap himage] at hc
    obtain ⟨p, hp, hc⟩ := Option.bind_eq_some_iff.1 hc
    refine hplain p (List.mem_of_mem_head? hp) c (List.mem_of_mem_head? hc) ?_
    rintro rfl
    have hhead : (Text.trimChars text.toList).head? = some c := by
      rw [hchars, ← hsource, Piece.head?_flatMap fun p _ => p.source_ne_nil, hp]
      rfl
    exact Text.not_of_head?_stripChars hhead
  · rw [toList_expand, Piece.getLast?_flatMap himage] at hc
    obtain ⟨p, hp, hc⟩ := Option.bind_eq_some_iff.1 hc
    refine hplain p (List.mem_of_mem_getLast? hp) c (List.mem_of_mem_getLast? hc) ?_
    rintro rfl
    have hlast : (Text.trimChars text.toList).getLast? = some c := by
      rw [hchars, ← hsource, Piece.getLast?_flatMap fun p _ => p.source_ne_nil, hp]
      rfl
    exact Text.not_of_getLast?_stripChars hlast

end Line

end JsonShell
