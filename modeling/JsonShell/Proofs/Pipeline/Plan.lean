import JsonShell.Pipeline.Head
import JsonShell.Pipeline.Stage
import JsonShell.Line.Pipe
import JsonShell.Proofs.Loop.Quotes

/-!
# The plan of a pipeline

A pipeline is read here as a whole, before anything is run.  Its *legs* are its module segments, in
order: the head, if that is a command, and then each stage that calls a module.  The directives
between two modules belong to the leg of the second one, and those after the last module finish the
pipeline.  What directives do to a record is the same as first doing all selections and then
choosing the display of the last display directive (`foldl_apply`).
-/

set_option autoImplicit false

namespace JsonShell

/-! ## Directives -/

/-- The fields of a selection. -/
def Stage.fields? : Stage → Option (List String)
  | .select fields => some fields
  | _ => none

/-- The display that a directive chooses. -/
def Stage.mode? : Stage → Option Display
  | .display mode => some mode
  | _ => none

namespace Record

/-- The record after all selections among the directives, one after the other. -/
def selected (directives : List Stage) (r : Record) : Record :=
  (directives.filterMap Stage.fields?).foldl (fun r fields => r.select fields) r

/-- The record after all selections, with the last display that a directive chooses. -/
def directed (directives : List Stage) (r : Record) : Record :=
  { r.selected directives with
    display := ((directives.filterMap Stage.mode?).getLast?).getD r.display }

theorem select_display (fields : List String) (r : Record) :
    (r.select fields).display = r.display := by
  rw [select]
  split
  · rfl
  · split <;> rfl

/-- A selection does not look at the display. -/
theorem select_withDisplay (fields : List String) (mode : Display) (r : Record) :
    ({ r with display := mode }.select fields) = { r.select fields with display := mode } := by
  rw [select, select]
  split
  · rfl
  · dsimp only
    split <;> rfl

theorem selected_withDisplay (directives : List Stage) (mode : Display) (r : Record) :
    ({ r with display := mode }.selected directives) =
      { r.selected directives with display := mode } := by
  rw [selected, selected]
  generalize directives.filterMap Stage.fields? = selections
  induction selections generalizing r with
  | nil => rfl
  | cons fields rest ih => rw [List.foldl_cons, List.foldl_cons, select_withDisplay, ih]

/-- **Directives commute as far as they can**: all selections can be done first. -/
theorem foldl_apply (directives : List Stage) (r : Record) :
    directives.foldl (fun r stage => stage.apply r) r = r.directed directives := by
  induction directives generalizing r with
  | nil => rfl
  | cons stage rest ih =>
    rw [List.foldl_cons, ih]
    cases stage with
    | select fields =>
      rw [directed, Stage.apply, select_display]
      rfl
    | display mode =>
      rw [directed, Stage.apply, selected_withDisplay, directed]
      simp only [List.filterMap_cons, Stage.mode?, List.getLast?_cons, Option.getD_some]
      rfl
    | call name args => rfl

end Record

/-! ## Heads -/

/-- A text without words that has no blanks around it, and is neither empty nor a literal, is a
single double quote. -/
theorem eq_quote_of_tokenize_eq_nil {segment : String} (hne : Text.trim segment ≠ "")
    (hwords : tokenize (Text.trim segment) = [])
    (hunquote : unquote (Text.trim segment) = Text.trim segment) : Text.trim segment = "\"" := by
  have hquotes := (Token.of_scan_eq_nil (List.map_eq_nil_iff.1 hwords)).2
  have hmargin : ∀ c ∈ (Text.trim segment).toList, isBlank c = false → c = '"' := by
    intro c hc hblank
    refine (hquotes c hc).resolve_right fun hspace => ?_
    rw [hspace] at hblank
    exact absurd hblank (by decide)
  have hchars : (Text.trim segment).toList ≠ [] := fun h => hne (String.toList_injective h)
  have hstrip : (Text.trim segment).toList = Text.stripChars isBlank segment.toList :=
    String.toList_ofList
  have hhead : (Text.trim segment).toList.head? = some '"' := by
    cases hfirst : (Text.trim segment).toList.head? with
    | none => exact absurd (List.head?_eq_none_iff.1 hfirst) hchars
    | some c =>
      have hblank : isBlank c = false := Text.not_of_head?_stripChars (hstrip ▸ hfirst)
      rw [hmargin c (List.mem_of_mem_head? hfirst) hblank]
  have hlast : (Text.trim segment).toList.getLast? = some '"' := by
    cases hend : (Text.trim segment).toList.getLast? with
    | none => exact absurd (List.getLast?_eq_none_iff.1 hend) hchars
    | some c =>
      have hblank : isBlank c = false := Text.not_of_getLast?_stripChars (hstrip ▸ hend)
      rw [hmargin c (List.mem_of_mem_getLast? hend) hblank]
  refine Decidable.byContradiction fun hmore => ?_
  obtain ⟨inner, hinner⟩ := exists_eq_quotes hhead hlast hmore
  rw [hinner] at hunquote
  exact unquote_quotes_ne inner hunquote

/-- There is no head if the segment is blank or a single double quote. -/
theorem Head.parse_eq_empty_iff (segment : String) :
    Head.parse segment = .empty ↔ Text.trim segment = "" ∨ Text.trim segment = "\"" := by
  constructor
  · intro h
    rw [parse] at h
    by_cases hempty : Text.trim segment = ""
    · exact .inl hempty
    refine .inr ?_
    rw [if_neg hempty] at h
    split at h
    · cases h
    · dsimp only at h
      split at h
      · cases h
      · rename_i hunquote
        split at h
        · cases h
        · refine eq_quote_of_tokenize_eq_nil hempty ?_ (Decidable.not_not.1 hunquote)
          cases hwords : tokenize (Text.trim segment) with
          | nil => rfl
          | cons name args =>
            rw [hwords] at h
            cases h
  · rintro (h | h)
    · rw [parse, h]
      rfl
    · rw [parse, h]
      decide +kernel

/-! ## Legs -/

/-- A module segment: the directives between the module before it and this one, and its words, which
are not expanded. -/
structure Leg where
  directives : List Stage
  name : String
  args : List String

/-- A pipeline as it is read. -/
structure Plan where
  /-- The record of a head that is a literal. -/
  literal? : Option Record
  legs : List Leg
  /-- The directives after the last module. -/
  finish : List Stage

namespace Plan

/-- The legs that stages make, and the directives after the last one. -/
def legsOf : List Stage → List Leg × List Stage
  | [] => ([], [])
  | .call name args :: rest => (⟨[], name, args⟩ :: (legsOf rest).1, (legsOf rest).2)
  | directive :: rest =>
    match legsOf rest with
    | ([], finish) => ([], directive :: finish)
    | (leg :: legs, finish) =>
      ({ leg with directives := directive :: leg.directives } :: legs, finish)

/-- The legs are the module segments, in order. -/
theorem map_legsOf (stages : List Stage) :
    ((legsOf stages).1.map fun leg => Stage.call leg.name leg.args) =
      stages.filter fun stage => stage.fields?.isNone && stage.mode?.isNone := by
  fun_induction legsOf stages with
  | case1 => rfl
  | case2 name args rest ih =>
    rw [List.filter_cons_of_pos (by rfl), List.map_cons, ih]
  | case3 directive rest hcall finish heq ih =>
    rw [heq] at ih
    cases directive with
    | call name args => exact absurd rfl (hcall name args)
    | _ => exact ih
  | case4 directive rest hcall leg legs finish heq ih =>
    rw [heq] at ih
    cases directive with
    | call name args => exact absurd rfl (hcall name args)
    | _ => exact ih

/-- The plan of the segments of a pipeline, unless there is no head. -/
def ofSegments? (head : String) (stages : List String) : Option Plan :=
  let (legs, finish) := legsOf (stages.filterMap Stage.parse?)
  match Head.parse head with
  | .empty => none
  | .literal r => some ⟨some r, legs, finish⟩
  | .command name args => some ⟨none, ⟨[], name, args⟩ :: legs, finish⟩

theorem ofSegments?_eq_none_iff (head : String) (stages : List String) :
    ofSegments? head stages = none ↔ Head.parse head = .empty := by
  rw [ofSegments?]
  cases Head.parse head <;> simp

end Plan

end JsonShell
