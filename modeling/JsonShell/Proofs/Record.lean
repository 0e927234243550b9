import JsonShell.Pipeline.Stage
import JsonShell.Proofs.Dictionary

/-!
# Records lose nothing

The record of a JSON object takes the output and the status out of the object, and the object of a
record puts them back.  Dictionaries with the same values are the same (`Dictionary.Sorted.ext`), so
it is enough to look at one key at a time.

An object is always the one that is put together again.  A record is, if its two keys are really out
of the rest (`IsSplit`), which holds of the record of an object, and no stage changes it: a pipeline
only ever has such records.
-/

set_option autoImplicit false

namespace JsonShell

namespace Record

variable {entries : Dictionary Value} {r : Record}

/-! ## Records with their two keys taken out -/

/-- The conventional keys are out of the rest of a record, but for a status that is no text. -/
structure IsSplit (r : Record) : Prop where
  sorted : Dictionary.Sorted r.extra
  output : Dictionary.find? "output" r.extra = none
  status : ∀ v, Dictionary.find? "status" r.extra = some v → r.status = none ∧ ∀ s, v ≠ .string s

theorem isSplit_success (output : Value) : (success output).IsSplit :=
  ⟨List.Pairwise.nil, rfl, nofun⟩

theorem isSplit_ofEntries (h : Dictionary.Sorted entries) : (ofEntries entries).IsSplit := by
  have hrest : Dictionary.Sorted (Dictionary.erase "output" entries) := h.erase "output"
  rw [ofEntries]
  split
  · refine ⟨hrest.erase "status", ?_, fun v hv => ?_⟩
    · simp [Dictionary.find?_erase]
    · simp [Dictionary.find?_erase] at hv
  · rename_i hstatus
    refine ⟨hrest, ?_, fun v hv => ⟨rfl, ?_⟩⟩
    · simp [Dictionary.find?_erase]
    · rintro s rfl
      rw [Dictionary.find?_erase, if_neg (by decide)] at hv
      exact hstatus s hv

/-- A stage changes nothing of a record but its output and its display. -/
theorem exists_apply_eq (stage : Stage) (r : Record) :
    ∃ output display, stage.apply r = { r with output := output, display := display } := by
  cases stage with
  | select fields =>
    show ∃ output display, r.select fields = _
    rw [select]
    split
    · exact ⟨r.output, r.display, rfl⟩
    · split
      · exact ⟨_, r.display, rfl⟩
      · exact ⟨r.output, r.display, rfl⟩
  | display mode => exact ⟨r.output, mode, rfl⟩
  | call name args => exact ⟨r.output, r.display, rfl⟩

/-- So it leaves the two keys out of the rest. -/
theorem IsSplit.apply (h : r.IsSplit) (stage : Stage) : (stage.apply r).IsSplit := by
  obtain ⟨output, display, heq⟩ := exists_apply_eq stage r
  rw [heq]
  exact ⟨h.sorted, h.output, h.status⟩

/-- The records of a pipeline: those of literals and of modules, and what stages make of them. -/
inductive Arises : Record → Prop
  | success (output : Value) : Arises (success output)
  | ofEntries {entries : Dictionary Value} (sorted : Dictionary.Sorted entries) :
      Arises (ofEntries entries)
  | apply {r : Record} (arises : Arises r) (stage : Stage) : Arises (stage.apply r)

/-- **In a pipeline the two keys are out of the rest** of every record. -/
theorem Arises.isSplit (h : r.Arises) : r.IsSplit := by
  induction h with
  | success output => exact isSplit_success output
  | ofEntries sorted => exact isSplit_ofEntries sorted
  | apply _ stage ih => exact ih.apply stage

/-! ## Taking apart and putting together -/

theorem sorted_entries (h : Dictionary.Sorted r.extra) : Dictionary.Sorted r.entries := by
  rw [entries]
  cases r.output with
  | none =>
    cases r.status with
    | none => exact h
    | some s => exact h.insert "status" (.string s)
  | some v =>
    have houtput := h.insert "output" v
    cases r.status with
    | none => exact houtput
    | some s => exact houtput.insert "status" (.string s)

theorem find?_output_entries (r : Record) : Dictionary.find? "output" r.entries =
    r.output.or (Dictionary.find? "output" r.extra) := by
  rw [entries]
  cases r.status <;> cases r.output <;> simp [Dictionary.find?_insert]

theorem find?_status_entries (r : Record) : Dictionary.find? "status" r.entries =
    (r.status.map .string).or (Dictionary.find? "status" r.extra) := by
  rw [entries]
  cases r.status <;> cases r.output <;> simp [Dictionary.find?_insert]

theorem find?_entries {key : String} (r : Record) (houtput : key ≠ "output")
    (hstatus : key ≠ "status") : Dictionary.find? key r.entries = Dictionary.find? key r.extra := by
  rw [entries]
  cases r.status <;> cases r.output <;> simp [Dictionary.find?_insert, houtput, hstatus]

/-- **An object is put together again.** -/
theorem entries_ofEntries (h : Dictionary.Sorted entries) :
    (ofEntries entries).entries = entries := by
  refine (sorted_entries (isSplit_ofEntries h).sorted).ext h fun key => ?_
  by_cases houtput : key = "output"
  · subst houtput
    rw [find?_output_entries, (isSplit_ofEntries h).output, Option.or_none, ofEntries]
    split <;> rfl
  · by_cases hstatus : key = "status"
    · subst hstatus
      rw [find?_status_entries, ofEntries]
      split
      · rename_i s hs
        rw [hs]
        rfl
      · show Option.or none _ = _
        rw [Option.none_or, Dictionary.find?_erase, if_neg houtput]
    · rw [find?_entries _ houtput hstatus, ofEntries]
      split
      · rw [Dictionary.find?_erase, if_neg hstatus, Dictionary.find?_erase, if_neg houtput]
      · rw [Dictionary.find?_erase, if_neg houtput]

/-- The rest of a record is what is left of its object without the output and the status. -/
theorem IsSplit.erase_entries (h : r.IsSplit) {s : String} (hstatus : r.status = some s) :
    Dictionary.erase "status" (Dictionary.erase "output" r.entries) = r.extra := by
  refine (((sorted_entries h.sorted).erase "output").erase "status").ext h.sorted fun key => ?_
  rw [Dictionary.find?_erase, Dictionary.find?_erase]
  split
  · rename_i hkey
    subst hkey
    cases hfind : Dictionary.find? "status" r.extra with
    | none => rfl
    | some v =>
      have hnone := (h.status v hfind).1
      rw [hstatus] at hnone
      cases hnone
  · rename_i hne
    split
    · rename_i hkey
      rw [hkey, h.output]
    · rename_i houtput
      exact find?_entries r houtput hne

/-- Without a status of its own, it is what is left without the output. -/
theorem IsSplit.erase_output_entries (h : r.IsSplit) (hstatus : r.status = none) :
    Dictionary.erase "output" r.entries = r.extra := by
  refine ((sorted_entries h.sorted).erase "output").ext h.sorted fun key => ?_
  rw [Dictionary.find?_erase]
  split
  · rename_i hkey
    rw [hkey, h.output]
  · rename_i houtput
    by_cases hkey : key = "status"
    · rw [hkey, find?_status_entries, hstatus, Option.map_none, Option.none_or]
    · exact find?_entries r houtput hkey

/-- **A record is taken apart again**, but for its display. -/
theorem IsSplit.ofEntries_entries (h : r.IsSplit) :
    ofEntries r.entries = { r with display := .raw } := by
  rw [ofEntries, find?_output_entries, h.output, Option.or_none, find?_status_entries]
  cases hstatus : r.status with
  | some s => simp only [Option.map_some, Option.some_or, h.erase_entries hstatus]
  | none =>
    rw [Option.map_none, Option.none_or, h.erase_output_entries hstatus]
    split
    · rename_i s hs
      exact absurd rfl ((h.status _ hs).2 s)
    · rfl

/-- **The object of a record loses nothing.**  Every object is that of its record.  And every record
of a pipeline is that of its object, but for the display; its output is never in the rest, and its
status only if that is no text. -/
theorem object_roundTrip :
    (∀ entries, Dictionary.Sorted entries → (ofEntries entries).toValue = .map entries) ∧
      ∀ r : Record, r.Arises →
        Dictionary.find? "output" r.extra = none ∧
        (∀ v, Dictionary.find? "status" r.extra = some v →
          r.status = none ∧ ∀ s, v ≠ .string s) ∧
        ∃ entries, r.toValue = .map entries ∧ ofEntries entries = { r with display := .raw } := by
  refine ⟨fun entries h => congrArg Value.map (entries_ofEntries h), fun r h => ?_⟩
  have hsplit : r.IsSplit := h.isSplit
  exact ⟨hsplit.output, hsplit.status, r.entries, rfl, hsplit.ofEntries_entries⟩

/-- The status is no text, and a field of the output is selected. -/
theorem object_roundTrip_number :
    ∃ r : Record, r.Arises ∧ r =
        ⟨some (.map [("b", .null)]), none, .table, [("a", .bool true), ("status", .ofInt 0)]⟩ ∧
      (ofEntries [("a", .bool true), ("output", .null), ("status", .ofInt 0)]).toValue =
        .map [("a", .bool true), ("output", .null), ("status", .ofInt 0)] ∧
      Dictionary.find? "output" r.extra = none ∧
      ∃ entries, r.toValue = .map entries ∧ ofEntries entries = { r with display := .raw } := by
  have hsorted : Dictionary.Sorted
      [("a", Value.bool true), ("output", .null), ("status", .ofInt 0)] := by
    simp only [Dictionary.Sorted]
    decide
  have hsorted' : Dictionary.Sorted
      [("a", Value.bool true), ("output", .map [("b", .null), ("c", .null)]),
        ("status", .ofInt 0)] := by
    simp only [Dictionary.Sorted]
    decide
  have harises := ((Arises.ofEntries hsorted').apply (.select ["b", "d"])).apply (.display .table)
  obtain ⟨houtput, -, hback⟩ := object_roundTrip.2 _ harises
  exact ⟨_, harises, by decide +kernel, object_roundTrip.1 _ hsorted, houtput, hback⟩

end Record

end JsonShell
