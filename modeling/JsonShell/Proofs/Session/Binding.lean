import JsonShell.Proofs.Session.Run
import JsonShell.Proofs.Session.Sample
import JsonShell.Proofs.Variable.Assignment

/-!
# What an assignment binds

A line that is an assignment shows the binding, stores the value, and does nothing else to the
session (`execute_assignment`).  If the output refuses to show it, nothing is stored.  If what is
bound is a name, a reference to that name gives the value back (`Store.expand_braced`).

`set`, `let` and a dollar sign also take a word that is no name, as in `set a-b 1`.  The store has
that binding then, but expansion looks up names only, so it changes no text
(`Store.expand_set_of_not_isName`).
-/

set_option autoImplicit false

namespace JsonShell

/-! ## What a text refers to -/

/-- Texts refer to names. -/
theorem Reference.isNameChars_of_mem_names {cs name : List Char} (h : name ∈ names cs) :
    IsNameChars name := by
  obtain ⟨p, hp, hname⟩ := List.mem_filterMap.1 h
  cases p with
  | char c => cases hname
  | reference other braced =>
    obtain rfl := Option.some.inj hname
    exact isNameChars_of_mem_piecesFrom hp

namespace Store

variable {name : String}

/-- What is no name is bound to no effect on texts. -/
theorem expand_set_of_not_isName (hname : isName name = false) (s : Store) (value text : String) :
    (s.set name value).expand text = s.expand text := by
  refine congrArg String.ofList (Reference.expandFrom_congr fun other hother => ?_)
  have hne : String.ofList other ≠ name := by
    rintro rfl
    have hchars := Reference.isNameChars_of_mem_names hother
    rw [← String.toList_ofList (l := other), ← isName_iff, hname] at hchars
    cases hchars
  rw [valueOf, valueOf, get?_set, if_neg hne]

/-- A name in braces stands for its value. -/
theorem expand_braced (hname : isName name = true) (s : Store) :
    s.expand ("$\x7b" ++ name ++ "\x7d") = (s.get? name).getD "" := by
  have hwritten : Reference.IsWritten [.reference name.toList true] :=
    ⟨isNameChars_of_isName hname, fun hbare => Bool.noConfusion hbare, trivial⟩
  have hsource : ("$\x7b" ++ name ++ "\x7d").toList =
      [Piece.reference name.toList true].flatMap Piece.source := by
    rw [String.toList_append, String.toList_append, List.flatMap_singleton]
    rfl
  refine String.toList_injective ?_
  rw [toList_expand, hsource, hwritten.pieces_eq, List.flatMap_singleton]
  show ((s.get? (String.ofList name.toList)).getD "").toList = _
  rw [String.ofList_toList]

end Store

/-! ## Running an assignment -/

theorem Command.ofLine_of_parse? {files : FileTree} {line : String} {a : Assignment}
    (hparse : Assignment.parse? (Text.trim line) = some a)
    (hfile : files.isFile ⟨Text.trim line⟩ = false) :
    Command.ofLine files line = .assignment a := by
  have hempty : Text.trim line ≠ "" := by
    intro hempty
    rw [hempty] at hparse
    cases hparse
  simp only [ofLine, if_neg hempty, hfile, hparse, Bool.false_eq_true, if_false]

variable {ρ : Type}

/-- **An assignment stores its value, and a reference to a name gives it back.**  What is bound is a
name or a word of the line, which is taken as it is.  If it is no name, every text expands as it did
before.  Only if the binding cannot be shown, it is not made, and that is the failure. -/
theorem execute_assignment {line : String} {a : Assignment}
    (hparse : Assignment.parse? line = some a) :
    (isName a.name = true ∨ Assignment.TakesWord a.name (tokenize line)) ∧
      ∀ (settings : Settings ρ) (s : Session ρ) (depth : Nat) (typed : String),
        Text.trim typed = line → s.files.isFile ⟨line⟩ = false →
          ∃ run, Action.execute settings (depth + 1) typed s = some run ∧
            (s.output.refusal? (Action.bindingText a) = none → run.result = .ok () ∧
              run.session = { s with
                store := s.store.set a.name a.value
                output := s.output.after (Action.bindingText a) } ∧
              (isName a.name = true →
                run.session.store.expand ("$\x7b" ++ a.name ++ "\x7d") = a.value) ∧
              (isName a.name = false →
                ∀ text, run.session.store.expand text = s.store.expand text)) ∧
            ∀ refusal, s.output.refusal? (Action.bindingText a) = some refusal →
              run.result = .error (.io refusal.fault) ∧
                run.session = { s with output := s.output.after (Action.bindingText a) } := by
  refine ⟨Assignment.isName_or_takesWord hparse, fun settings s depth typed htrim hfile => ?_⟩
  have hcommand : Command.ofLine s.files typed = .assignment a := by
    rw [← htrim] at hparse hfile
    exact Command.ofLine_of_parse? hparse hfile
  have hrun : Action.execute settings (depth + 1) typed s = Action.assign a s := by
    rw [Action.execute_eq, hcommand]
    rfl
  refine ⟨_, hrun.trans (Action.assign_eq a s), fun htakes => ?_, fun refusal hrefuses => ?_⟩
  · rw [Action.assignRun, htakes]
    refine ⟨rfl, rfl, fun hname => ?_,
      fun hname => s.store.expand_set_of_not_isName hname a.value⟩
    show (s.store.set a.name a.value).expand _ = a.value
    rw [Store.expand_braced hname, Store.get?_set, if_pos rfl]
    rfl
  · rw [Action.assignRun, hrefuses]
    exact ⟨rfl, rfl⟩

/-- The word `a-b` is no name, but `set` takes it. -/
theorem execute_assignment_dashed :
    Assignment.parse? "set a-b 1" = some ⟨"a-b", "1"⟩ ∧ Text.trim " set a-b 1" = "set a-b 1" ∧
      Sample.session.files.isFile ⟨"set a-b 1"⟩ = false ∧
      ∃ run, Action.execute Sample.settings 1 " set a-b 1" Sample.session = some run ∧
        run.session = { Sample.session with
          store := Store.empty.set "a-b" "1"
          output := Output.working.after "a-b=1\n" } ∧
        run.session.store.expand "$\x7ba-b\x7d" = "$\x7ba-b\x7d" := by
  have hparse : Assignment.parse? "set a-b 1" = some ⟨"a-b", "1"⟩ := by decide +kernel
  have htrim : Text.trim " set a-b 1" = "set a-b 1" := by decide +kernel
  have hfile : Sample.session.files.isFile ⟨"set a-b 1"⟩ = false := by decide +kernel
  obtain ⟨run, hrun, htakes, -⟩ :=
    (@execute_assignment Prepared _ _ hparse).2 Sample.settings Sample.session 0 _ htrim hfile
  obtain ⟨-, hsession, -, hnone⟩ := htakes (Output.works_working.refusal?_eq_none _)
  have hexpand : Sample.session.store.expand "$\x7ba-b\x7d" = "$\x7ba-b\x7d" := by decide +kernel
  exact ⟨hparse, htrim, hfile, run, hrun, hsession, (hnone (by decide) _).trans hexpand⟩

/-- So an assignment may bind what is no name, and no reference gives its value back. -/
theorem Assignment.parse?_dashed :
    parse? "set a-b 1" = some ⟨"a-b", "1"⟩ ∧ isName "a-b" = false ∧
      (Store.empty.set "a-b" "1").expand "$\x7ba-b\x7d" ≠ "1" := by
  decide +kernel

end JsonShell
