import JsonShell.Proofs.Text.Lines

/-!
# Texts in order

What a report says is put between labels, marks and line breaks.  That it says these things, one
after the other, is `Text.InOrder`: there are gaps before, between and after the texts, and nothing
is said about the gaps.  It is kept when texts are put together, and so it is shown piece by piece.
-/

set_option autoImplicit false

namespace JsonShell

namespace Text

/-- The texts are in another text, one after the other. -/
inductive InOrder : List String → String → Prop
  | nil (gap : String) : InOrder [] gap
  | cons (gap text : String) {texts : List String} {rest : String} :
      InOrder texts rest → InOrder (text :: texts) (gap ++ text ++ rest)

namespace InOrder

variable {ts us : List String} {s s' : String} {ls ms : List String}

/-- Something in front does not matter. -/
theorem after (h : InOrder ts s) (gap : String) : InOrder ts (gap ++ s) := by
  cases h with
  | nil => exact nil _
  | cons gap' text hrest =>
    rw [← String.append_assoc, ← String.append_assoc]
    exact cons (gap ++ gap') text hrest

theorem append (h : InOrder ts s) (h' : InOrder us s') : InOrder (ts ++ us) (s ++ s') := by
  induction h with
  | nil gap => exact h'.after gap
  | cons gap text hrest ih =>
    rw [String.append_assoc]
    exact cons gap text ih

theorem append_gap (h : InOrder ts s) (gap : String) : InOrder ts (s ++ gap) := by
  have happend := h.append (nil gap)
  rwa [List.append_nil] at happend

theorem self (text : String) : InOrder [text] text := by
  have hself : InOrder [text] ("" ++ text ++ "") := cons "" text (nil "")
  rwa [String.empty_append, String.append_empty] at hself

theorem concat (h : InOrder ts s) (text : String) : InOrder (ts ++ [text]) (s ++ text) :=
  h.append (self text)

/-- A text at the end. -/
theorem last (gap text : String) : InOrder [text] (gap ++ text) :=
  (nil gap).concat text

/-- The characters of the texts are there. -/
theorem subset (h : InOrder ts s) {t : String} (ht : t ∈ ts) : t.toList ⊆ s.toList := by
  induction h with
  | nil => cases ht
  | cons gap text hrest ih =>
    rw [String.toList_append, String.toList_append]
    rcases List.mem_cons.1 ht with rfl | ht
    · exact fun c hc => List.mem_append_left _ (List.mem_append_right _ hc)
    · exact fun c hc => List.mem_append_right _ (ih ht hc)

theorem unlines_cons {line : String} (h : InOrder ts line) (hrest : InOrder us (unlines ls)) :
    InOrder (ts ++ us) (unlines (line :: ls)) :=
  (h.append_gap "\n").append hrest

theorem unlines_singleton {line : String} (h : InOrder ts line) : InOrder ts (unlines [line]) :=
  (h.append_gap "\n").append_gap ""

theorem unlines_append (h : InOrder ts (unlines ls)) (h' : InOrder us (unlines ms)) :
    InOrder (ts ++ us) (unlines (ls ++ ms)) := by
  rw [Text.unlines_append]
  exact h.append h'

/-- Lines that show a text each. -/
theorem unlines_map {f : String → String} (h : ∀ t, InOrder [t] (f t)) (ts : List String) :
    InOrder ts (unlines (ts.map f)) := by
  induction ts with
  | nil => exact nil _
  | cons t ts ih => exact unlines_cons (h t) ih

end InOrder

end Text

end JsonShell
