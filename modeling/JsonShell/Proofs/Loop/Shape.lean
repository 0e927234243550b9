import JsonShell.Proofs.Loop.RoundTrip
import JsonShell.Proofs.Text.Lines
import JsonShell.Proofs.Text.Trim

/-!
# The shape of a line that is a loop

A loop is read part by part, and each part has a scanner of its own.  This file says what is left of
that when nothing is known of a line but that it is a loop: a header up to a brace, the body up to
another brace, and blanks (`Loop.parse?_inv`).

So a line that ends with anything but a brace or a blank is no loop, and the commands of a loop are
shorter than the loop.  No blanks are around them.
-/

set_option autoImplicit false

namespace JsonShell

/-! ## Headers -/

namespace Header

variable {cs : List Char} {p : Parts}

theorem exists_of_binder? {found : List Char × List Char} (h : binder? cs = some found) :
    ∃ front, cs = front ++ '{' :: found.2 := by
  obtain ⟨before, between, gap, -, -, -, -, rfl⟩ := binder?_inv h
  refine ⟨before ++ ("as".toList ++ (between ++ '$' :: gap)), ?_⟩
  simp only [List.append_assoc, List.cons_append]

theorem exists_of_shortestSource? (h : shortestSource? cs = some p) :
    ∃ front, cs = front ++ '{' :: p.after := by
  induction cs generalizing p with
  | nil => cases h
  | cons c rest ih =>
    rw [shortestSource?] at h
    split at h
    · rename_i hbinder
      obtain ⟨front, rfl⟩ := exists_of_binder? hbinder
      cases h
      exact ⟨c :: front, rfl⟩
    · obtain ⟨q, hq, rfl⟩ := Option.map_eq_some_iff.1 h
      obtain ⟨front, rfl⟩ := ih hq
      exact ⟨c :: front, rfl⟩

theorem exists_of_sourceAfter? {blanks : Nat} (h : sourceAfter? blanks cs = some p) :
    ∃ front, cs = front ++ '{' :: p.after := by
  induction blanks with
  | zero => cases h
  | succ blanks ih =>
    rw [sourceAfter?] at h
    split at h
    · rename_i hfound
      cases h
      obtain ⟨front, hdrop⟩ := exists_of_shortestSource? hfound
      refine ⟨cs.take (blanks + 1) ++ front, ?_⟩
      rw [List.append_assoc, ← hdrop, List.take_append_drop]
    · exact ih h

/-- What follows the first word of a line is an end of the line. -/
theorem exists_of_skipWord? {word : String} {line : List Char}
    (h : skipWord? word (line.dropWhile isBlank) = some cs) : ∃ front, line = front ++ cs := by
  refine ⟨line.takeWhile isBlank ++ word.toList, ?_⟩
  rw [List.append_assoc, ← skipWord?_inv h, List.takeWhile_append_dropWhile]

theorem exists_of_counted? (h : counted? cs = some p) : ∃ front, cs = front ++ '{' :: p.after := by
  simp only [counted?, Option.bind_eq_bind, Option.bind_eq_some_iff] at h
  obtain ⟨rest, hword, source, hblanks, found, hbinder, hp⟩ := h
  obtain rfl := Option.some.inj hp
  obtain ⟨front, rfl⟩ := exists_of_skipWord? hword
  obtain ⟨blanks, -, rfl⟩ := skipBlanks?_inv hblanks
  obtain ⟨binder, hdrop⟩ := exists_of_binder? hbinder
  have hsource : source = source.takeWhile (!isBlank ·) ++ (binder ++ '{' :: found.2) := by
    rw [← hdrop]
    exact List.prefix_iff_eq_append.1 (List.takeWhile_prefix _) |>.symm
  refine ⟨front ++ (blanks ++ (source.takeWhile (!isBlank ·) ++ binder)), ?_⟩
  simp only [List.append_assoc]
  rw [← hsource]

theorem exists_of_listed? (h : listed? cs = some p) : ∃ front, cs = front ++ '{' :: p.after := by
  simp only [listed?, Option.bind_eq_bind, Option.bind_eq_some_iff] at h
  obtain ⟨rest, hword, hfound⟩ := h
  obtain ⟨front, rfl⟩ := exists_of_skipWord? hword
  obtain ⟨more, rfl⟩ := exists_of_sourceAfter? hfound
  exact ⟨front ++ more, (List.append_assoc ..).symm⟩

end Header

/-! ## Bodies -/

namespace Body

variable {depth : Nat} {quoted : Bool} {cs body : List Char}

theorem length_le_of_mem_pieces {piece : List Char} (h : piece ∈ pieces depth quoted cs) :
    piece.length ≤ cs.length := by
  induction cs generalizing depth quoted piece with
  | nil => simp [List.mem_singleton.1 h]
  | cons c rest ih =>
    have hkeep : ∀ {depth quoted}, piece ∈ Text.consFirst c (pieces depth quoted rest) →
        piece.length ≤ (c :: rest).length := fun hmem =>
      Text.of_mem_consFirst (p := fun q => q.length ≤ (c :: rest).length) hmem
        (fun q hq => ⟨Nat.le_succ_of_le (ih hq), Nat.succ_le_succ (ih hq)⟩) (by simp)
    rw [pieces] at h
    split at h
    · exact hkeep h
    · split at h
      · exact hkeep h
      · split at h
        · exact hkeep h
        · split at h
          · exact hkeep h
          · split at h
            · rcases List.mem_cons.1 h with rfl | h
              · exact Nat.zero_le _
              · exact Nat.le_succ_of_le (ih h)
            · exact hkeep h

/-- A command is a piece without the blanks around it. -/
theorem of_mem_commands {command : List Char} (h : command ∈ commands body) :
    Text.trimChars command = command ∧ command.length ≤ body.length := by
  obtain ⟨piece, hpiece, rfl⟩ := List.mem_map.1 (List.mem_filter.1 h).1
  exact ⟨Text.trimChars_trimChars piece,
    (Text.length_trimChars_le piece).trans (length_le_of_mem_pieces hpiece)⟩

end Body

/-! ## Lines -/

namespace Loop

variable {line : String} {l : Loop}

/-- A header goes up to a brace. -/
theorem exists_of_header? {cs : List Char} {kind : LoopKind} {p : Header.Parts}
    (h : header? cs = some (kind, p)) : ∃ front, cs = front ++ '{' :: p.after := by
  rw [header?] at h
  split at h
  · rename_i hcounted
    cases h
    exact Header.exists_of_counted? hcounted
  · obtain ⟨q, hlisted, heq⟩ := Option.map_eq_some_iff.1 h
    cases heq
    exact Header.exists_of_listed? hlisted

/-- The parts of a loop, as they are found. -/
theorem parse?_parts (h : parse? line = some l) : ∃ kind parts body after,
    header? line.toList = some (kind, parts) ∧
      Body.close? 0 false parts.after = some (body, after) ∧
      (∀ c ∈ after, isBlank c = true) ∧ l.body = (Body.commands body).map String.ofList := by
  rw [parse?] at h
  split at h
  · cases h
  · rename_i kind parts hheader
    split at h
    · cases h
    · rename_i body after hclose
      split at h
      · rename_i hafter
        cases h
        exact ⟨kind, parts, body, after, hheader, hclose, List.all_eq_true.1 hafter, rfl⟩
      · cases h

/-- **A loop is a header, a body in braces, and blanks.** -/
theorem parse?_inv (h : parse? line = some l) :
    ∃ front body after, line.toList = front ++ '{' :: (body ++ '}' :: after) ∧
      (∀ c ∈ after, isBlank c = true) ∧ l.body = (Body.commands body).map String.ofList := by
  obtain ⟨kind, parts, body, after, hheader, hclose, hafter, hbody⟩ := parse?_parts h
  obtain ⟨front, hfront⟩ := exists_of_header? hheader
  refine ⟨front, body, after, ?_, hafter, hbody⟩
  rw [hfront, (Body.of_close? hclose).1]

/-- A line without braces is no loop. -/
theorem parse?_eq_none_of_not_mem (h : '{' ∉ line.toList) : parse? line = none := by
  rw [Option.eq_none_iff_forall_ne_some]
  intro l hl
  obtain ⟨front, body, after, hline, -⟩ := parse?_inv hl
  exact h (by rw [hline]; simp)

/-- **A line that ends with neither a brace nor a blank is no loop.** -/
theorem parse?_eq_none_of_getLast? {c : Char} (h : line.toList.getLast? = some c) (hc : c ≠ '}')
    (hblank : isBlank c = false) : parse? line = none := by
  rw [Option.eq_none_iff_forall_ne_some]
  intro l hl
  obtain ⟨front, body, after, hline, hafter, -⟩ := parse?_inv hl
  have hsplit : line.toList = (front ++ '{' :: body) ++ '}' :: after := by
    rw [hline, List.append_assoc, List.cons_append]
  have hlast : ('}' :: after).getLast? = some c := by
    rw [hsplit, List.getLast?_append, List.getLast?_cons, Option.some_or] at h
    rw [List.getLast?_cons, h]
  rcases List.mem_cons.1 (List.mem_of_mem_getLast? hlast) with hbrace | hmem
  · exact hc hbrace
  · rw [hafter c hmem] at hblank
    cases hblank

/-- **The commands of a loop are shorter than the loop**, and no blanks are around them. -/
theorem of_mem_body (h : parse? line = some l) {command : String} (hcommand : command ∈ l.body) :
    Text.trim command = command ∧ command.toList.length < line.toList.length := by
  obtain ⟨front, body, after, hline, -, hbody⟩ := parse?_inv h
  rw [hbody] at hcommand
  obtain ⟨cs, hcs, rfl⟩ := List.mem_map.1 hcommand
  obtain ⟨htrim, hlength⟩ := Body.of_mem_commands hcs
  rw [Text.trim, String.toList_ofList, htrim]
  refine ⟨rfl, ?_⟩
  rw [hline]
  simp only [List.length_append, List.length_cons]
  omega

end Loop

end JsonShell
