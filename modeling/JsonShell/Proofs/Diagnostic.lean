import JsonShell.Diagnostic
import JsonShell.Proofs.Session.Run
import JsonShell.Proofs.Session.Sample
import JsonShell.Proofs.Text.InOrder

/-!
# Diagnostics show what they are given

The texts of a diagnostic are shown in the order of its parts: what kind of report it is, where it
is about, the line of input, the message, the hint and the notes (`Diagnostic.inOrder_render`).
There is one exception.  The message stands beside the mark under the line of input, and there is no
mark if no characters are marked; the diagnostic is then the one without a message
(`Diagnostic.render_of_unmarked`).  That happens when a call names no module at all.
-/

set_option autoImplicit false

namespace JsonShell

namespace Diagnostic

open Text (InOrder)

variable {d : Diagnostic} {colors : Bool}

/-! ## The parts of a diagnostic -/

/-- The texts of a diagnostic, in the order of its parts. -/
def texts (d : Diagnostic) : List String :=
  [d.label, d.title, (place d.location).1] ++ (d.context.toList ++ d.message.toList) ++
    d.hint.toList ++ d.notes

/-- The message, if there is one, has a place where it is shown: beside a mark under the line of
input, unless it stands alone. -/
def ShowsMessage (d : Diagnostic) : Prop :=
  d.message = none ∨ ∀ context, d.context = some context → 0 < (d.marked context).2

/-! ## The lines of a diagnostic -/

section Lines

variable (colors : Bool) (d : Diagnostic)

/-- The line number in the margin. -/
def margin : String :=
  (place d.location).2

/-- A margin without a line number. -/
def blank : String :=
  repeated " " d.margin.length

/-- What is at the right of the margin. -/
def bar : String :=
  Paint.paint colors Paint.cyan "│"

def titleLine : String :=
  Paint.paint colors (levelColor d.level) ("× " ++ d.label) ++ " " ++
    Paint.paint colors Paint.bold d.title

def placeLine : String :=
  d.blank ++ " " ++ Paint.paint colors Paint.cyan "-->" ++ " " ++ (place d.location).1

/-- A line after an empty margin. -/
def emptyLine : String :=
  d.blank ++ " " ++ bar colors

def hintLine (hint : String) : String :=
  d.emptyLine colors ++ " " ++ Paint.paint colors Paint.bold "hint:" ++ " " ++ hint

def noteLine (note : String) : String :=
  d.emptyLine colors ++ " " ++ Paint.paint colors Paint.bold "note:" ++ " " ++ note

/-- The line under the input, with so many characters before the mark and so many marked. -/
def markLine (start length : Nat) : String :=
  d.emptyLine colors ++ " " ++ repeated " " start ++
    Paint.paint colors (levelColor d.level) (repeated "^" length) ++ " " ++ d.message.getD ""

/-- The lines of the input and of the message. -/
def contextPart : List String :=
  contextLines colors d d.margin d.blank (bar colors)

def hintPart : List String :=
  (d.hint.map fun hint => [d.emptyLine colors, d.hintLine colors hint]).getD []

theorem lines_eq : d.lines colors =
    [d.titleLine colors, d.placeLine colors, d.emptyLine colors] ++ d.contextPart colors ++
      d.hintPart colors ++ d.notes.map (d.noteLine colors) ++ [""] := by
  rw [lines, hintPart]
  cases d.hint <;> rfl

end Lines

theorem contextPart_of_eq_none (h : d.context = none) : d.contextPart colors =
    (d.message.map fun message => d.emptyLine colors ++ " " ++ message).toList := by
  rw [contextPart, contextLines, h]
  cases d.message <;> rfl

theorem contextPart_of_eq_some {context : String} (h : d.context = some context) :
    d.contextPart colors = (d.margin ++ " " ++ bar colors ++ " " ++ context) ::
      if 0 < (d.marked context).2 then
        [d.markLine colors (d.marked context).1 (d.marked context).2]
      else [] := by
  rw [contextPart, contextLines, h]
  rfl

theorem contextPart_of_unmarked {context : String} (h : d.context = some context)
    (hmarked : ¬ 0 < (d.marked context).2) :
    d.contextPart colors = [d.margin ++ " " ++ bar colors ++ " " ++ context] := by
  rw [contextPart_of_eq_some h, if_neg hmarked]

/-! ## What is shown -/

/-- **A message that has no place is left out.** -/
theorem render_of_not_showsMessage (h : ¬ d.ShowsMessage) (colors : Bool) :
    d.render colors = { d with message := none }.render colors := by
  obtain ⟨context, hcontext, hmarked⟩ : ∃ context, d.context = some context ∧
      ¬ 0 < (d.marked context).2 := by
    simpa using (not_or.1 h).2
  let d' : Diagnostic := { d with message := none }
  have hpart : d.contextPart colors = d'.contextPart colors := by
    rw [contextPart_of_unmarked hcontext hmarked,
      contextPart_of_unmarked (d := d') hcontext hmarked]
    rfl
  rw [render, render, lines_eq, lines_eq, hpart]
  rfl

theorem inOrder_titleLine (d : Diagnostic) : InOrder [d.label, d.title] (d.titleLine false) :=
  ((InOrder.last "× " d.label).append_gap " ").concat d.title

theorem inOrder_contextPart (h : d.ShowsMessage) :
    InOrder (d.context.toList ++ d.message.toList) (Text.unlines (d.contextPart false)) := by
  cases hcontext : d.context with
  | none =>
    rw [contextPart_of_eq_none hcontext]
    cases d.message with
    | none => exact .nil _
    | some message => exact (InOrder.last _ message).unlines_singleton
  | some context =>
    rw [contextPart_of_eq_some hcontext]
    refine (InOrder.last _ context).unlines_cons ?_
    cases hmessage : d.message with
    | none => exact .nil _
    | some message =>
      have hmarked : 0 < (d.marked context).2 :=
        h.resolve_left (by simp [hmessage]) context hcontext
      have hmark : InOrder [message] (d.markLine false (d.marked context).1
          (d.marked context).2) := by
        rw [markLine, hmessage]
        exact InOrder.last _ message
      rw [if_pos hmarked]
      exact hmark.unlines_singleton

theorem inOrder_hintPart (d : Diagnostic) :
    InOrder d.hint.toList (Text.unlines (d.hintPart false)) := by
  rw [hintPart]
  cases d.hint with
  | none => exact .nil _
  | some hint => exact (InOrder.nil _).unlines_cons (InOrder.last _ hint).unlines_singleton

/-- **A diagnostic shows its texts in their order** if its message has a place. -/
theorem inOrder_render (h : d.ShowsMessage) : InOrder d.texts (d.render false) := by
  have hplace : InOrder [(place d.location).1] (d.placeLine false) := InOrder.last _ _
  have hnotes : InOrder d.notes (Text.unlines (d.notes.map (d.noteLine false))) :=
    InOrder.unlines_map (fun note => InOrder.last _ note) d.notes
  have htop : InOrder [d.label, d.title, (place d.location).1]
      (Text.unlines [d.titleLine false, d.placeLine false, d.emptyLine false]) :=
    (inOrder_titleLine d).unlines_cons (hplace.unlines_cons (.nil _))
  rw [render, lines_eq, Text.unlines_append]
  exact (((htop.unlines_append (inOrder_contextPart h)).unlines_append
    (inOrder_hintPart d)).unlines_append hnotes).append_gap _

/-! ## What is reported of calls -/

theorem showsMessage_moduleNotFound_iff {location : Location} {command name fileName : String}
    {paths : List Path} :
    (moduleNotFound location command name fileName paths).ShowsMessage ↔ name ≠ "" := by
  have hlength : 0 < name.length ↔ name ≠ "" := by
    rw [Nat.pos_iff_ne_zero, Ne, String.length_eq_zero_iff]
  rw [← hlength]
  exact ⟨fun h => h.resolve_left (Option.some_ne_none _) command rfl,
    fun h => .inr fun _ _ => h⟩

theorem showsMessage_executionFailed (paths : List Path) (name : String) (path : Path)
    (reason : String) : (executionFailed paths name path reason).ShowsMessage := by
  refine .inr fun context hcontext => ?_
  cases hcontext

end Diagnostic

namespace Action

variable {ρ : Type} {settings : Settings ρ} {name : String} {args : List String} {s : Session ρ}
  {run : Run ρ (Option Record)} {d : Diagnostic}

theorem reported_not_mem_callTrace (settings : Settings ρ) (name : String) (args : List String)
    (s : Session ρ) (d : Diagnostic) : .reported d ∉ callTrace settings name args s := by
  intro hmem
  rcases List.mem_append.1 hmem with hmem | hmem
  · obtain ⟨_, _, heq⟩ := List.mem_map.1 hmem
    cases heq
  · cases List.mem_singleton.1 hmem

/-- **What is reported of a call shows its message just if the failure has a module's name.** -/
theorem showsMessage_iff_of_call (h : call settings name args s = some run)
    (hd : .reported d ∈ run.trace) :
    d.ShowsMessage ↔ run.result ≠ .error (.moduleNotFound "") := by
  rw [call_eq] at h
  cases hanswer : answer settings name args s with
  | ok record =>
    rw [hanswer] at h
    cases h
    exact absurd hd (reported_not_mem_callTrace settings name args s d)
  | error failure =>
    rw [hanswer] at h
    cases h
    have hreport := (List.mem_append.1 hd).resolve_left
      (reported_not_mem_callTrace settings name args s d)
    cases failure with
    | moduleNotFound missing =>
      cases List.mem_singleton.1 hreport
      rw [Diagnostic.showsMessage_moduleNotFound_iff]
      simp
    | executionFailed failed path reason =>
      rcases List.mem_append.1 hreport with hlog | hreport
      · rw [logTrace] at hlog
        split at hlog
        · cases List.mem_singleton.1 hlog
        · cases hlog
      · cases List.mem_singleton.1 hreport
        simp [Diagnostic.showsMessage_executionFailed]
    | _ => cases hreport

end Action

/-- **A diagnostic shows its label, its title, its place, the line of input, the message, the hint
and the notes in this order.**  Only a message beside a mark of no length is missing, and then the
diagnostic is the one without a message.  What is reported of a call has its message, unless the
failure is that no module has the empty name. -/
theorem Diagnostic.render_texts (d : Diagnostic) :
    (d.ShowsMessage → Text.InOrder d.texts (d.render false)) ∧
    (¬ d.ShowsMessage →
      Text.InOrder { d with message := none }.texts (d.render false) ∧
      ∀ colors, d.render colors = { d with message := none }.render colors) ∧
    ∀ {ρ : Type} (settings : Settings ρ) (name : String) (args : List String) (s : Session ρ)
      (run : Run ρ (Option Record)), Action.call settings name args s = some run →
      .reported d ∈ run.trace →
        (d.ShowsMessage ↔ run.result ≠ .error (.moduleNotFound "")) ∧
        (run.result ≠ .error (.moduleNotFound "") →
          Text.InOrder d.texts (d.render false)) := by
  refine ⟨inOrder_render, fun h => ?_, fun settings name args s run h hd => ?_⟩
  · have hmessage : ({ d with message := none } : Diagnostic).ShowsMessage := .inl rfl
    have hrender := render_of_not_showsMessage h
    rw [hrender false]
    exact ⟨inOrder_render hmessage, hrender⟩
  · have hiff := Action.showsMessage_iff_of_call h hd
    exact ⟨hiff, fun hne => inOrder_render (hiff.2 hne)⟩

/-- A call of a module that is missing, typed with an argument, and a warning about an empty line of
input. -/
theorem Diagnostic.render_texts_missing :
    let d := moduleNotFound .interactive "nope x" "nope" "nope.py" [⟨"/m"⟩]
    let warning := { titled .warning "w" "t" with context := some "", message := some "m" }
    (∃ run, Action.call Sample.settings "nope" ["x"] Sample.session = some run ∧
      .reported d ∈ run.trace ∧ run.result ≠ .error (.moduleNotFound "")) ∧
    d.texts = ["err_module_not_found", "module not found", "entry:repl", "nope x",
      "cannot find module 'nope'", "expected to find nope.py in the modules directory",
      "current search path: /m", "run `modules` to see available modules"] ∧
    Text.InOrder d.texts (d.render false) ∧ d.ShowsMessage ∧
    ¬ warning.ShowsMessage ∧
    warning.render true = { warning with message := none }.render true := by
  intro d warning
  have hcall : (Action.call Sample.settings "nope" ["x"] Sample.session).map
      (fun run => run.trace.diagnostics) = some [d] := by decide +kernel
  obtain ⟨run, hrun, hdiagnostics⟩ := Option.map_eq_some_iff.1 hcall
  have hd : .reported d ∈ run.trace := by
    have hmem : d ∈ run.trace.diagnostics := hdiagnostics ▸ List.mem_singleton_self d
    obtain ⟨e, he, heq⟩ := List.mem_filterMap.1 hmem
    cases e <;> cases heq
    exact he
  have hshows : d.ShowsMessage := showsMessage_moduleNotFound_iff.2 (by decide)
  have hmissing : ¬ warning.ShowsMessage := by
    simp [ShowsMessage, warning, marked, titled]
  obtain ⟨hiff, horder⟩ :=
    (render_texts d).2.2 Sample.settings "nope" ["x"] Sample.session run hrun hd
  exact ⟨⟨run, hrun, hd, hiff.1 hshows⟩, by decide +kernel, horder (hiff.1 hshows), hshows,
    hmissing, ((render_texts warning).2.1 hmissing).2 true⟩

/-- A call of nothing at all: the diagnostic has a message with quotes, and no quote is shown. -/
theorem Diagnostic.render_texts_unnamed :
    let d := moduleNotFound .interactive "" "" ".py" [⟨"/m"⟩]
    (Action.call Sample.settings "" [] Sample.session).map (fun run => run.trace.diagnostics) =
      some [d] ∧
    d.message = some "cannot find module ''" ∧ ¬ Text.InOrder d.texts (d.render false) := by
  intro d
  refine ⟨by decide +kernel, rfl, fun h => ?_⟩
  have hmem : "cannot find module ''" ∈ d.texts := by decide
  have hlines : d.lines false = ["× err_module_not_found module not found", " --> entry:repl",
      " │", " │ ", " │", " │ hint: expected to find .py in the modules directory",
      " │ note: current search path: /m", " │ note: run `modules` to see available modules",
      ""] := by decide +kernel
  have hquote : '\x27' ∉ (d.render false).toList := by
    rw [render, hlines, Text.toList_unlines]
    decide +kernel
  exact hquote (h.subset hmem (by decide))

end JsonShell
