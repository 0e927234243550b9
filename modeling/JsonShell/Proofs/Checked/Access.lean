import Mathlib.Tactic.ByContra

/-!
# Checked accesses

A text is cut at byte offsets, an item is taken from a list by its index, and a number is subtracted
from another.  None of these has a result for all arguments, and a program that asks for one where
there is none comes to a halt.  Here such an access is an error, a `Breach`.

A slice of a text has a result just if the text is a beginning, the slice and an end, and the
offsets are where the slice starts and stops (`slice_eq_ok_iff`).
-/

set_option autoImplicit false

namespace JsonShell

namespace Checked

/-- Why an access has no result. -/
inductive Breach where
  /-- The ends of a slice are not in the text, not in order, or not between characters. -/
  | slice
  /-- A list has no item at an index. -/
  | index
  /-- A difference is less than zero. -/
  | difference
deriving DecidableEq, Repr

variable {α β : Type}

/-- The number of bytes of a text. -/
def byteSize (cs : List Char) : Nat :=
  (String.ofList cs).utf8ByteSize

/-- `a - b`, which may not be less than zero. -/
def difference (a b : Nat) : Except Breach Nat :=
  if b ≤ a then .ok (a - b) else .error .difference

/-- The text from the byte at `start` up to the one at `stop`. -/
def slice (s : String) (start stop : Nat) : Except Breach String :=
  if h : start ≤ stop ∧ String.Pos.Raw.IsValid s ⟨start⟩ ∧ String.Pos.Raw.IsValid s ⟨stop⟩ then
    .ok (String.extract (s.pos ⟨start⟩ h.2.1) (s.pos ⟨stop⟩ h.2.2))
  else .error .slice

/-- The text from the byte at `start`. -/
def sliceFrom (s : String) (start : Nat) : Except Breach String :=
  slice s start s.utf8ByteSize

/-- The item at an index. -/
def item (items : List α) (index : Nat) : Except Breach α :=
  match items[index]? with
  | some x => .ok x
  | none => .error .index

/-- The items from an index on, of which there may be none. -/
def itemsFrom (items : List α) (start : Nat) : Except Breach (List α) :=
  if start ≤ items.length then .ok (items.drop start) else .error .index

/-- The item at an index and the list without it. -/
def remove (items : List α) (index : Nat) : Except Breach (α × List α) :=
  match items[index]? with
  | some x => .ok (x, items.eraseIdx index)
  | none => .error .index

variable {s t before middle after : String} {a b c start stop : Nat}

theorem ok_bind (x : α) (f : α → Except Breach β) : (Except.ok x >>= f) = f x := rfl

/-! ## Differences -/

theorem difference_eq_ok_iff : difference a b = .ok c ↔ a = b + c := by
  rw [difference]
  split
  · rw [Except.ok.injEq]
    omega
  · exact ⟨nofun, fun h => by omega⟩

/-! ## Sizes -/

theorem byteSize_cons (c : Char) (cs : List Char) :
    byteSize (c :: cs) = c.utf8Size + byteSize cs := by
  rw [byteSize, String.ofList_cons, String.utf8ByteSize_append, String.utf8ByteSize_singleton,
    byteSize]

theorem byteSize_append (cs ds : List Char) : byteSize (cs ++ ds) = byteSize cs + byteSize ds := by
  rw [byteSize, String.ofList_append, String.utf8ByteSize_append, byteSize, byteSize]

theorem byteSize_toList (s : String) : byteSize s.toList = s.utf8ByteSize := by
  rw [byteSize, String.ofList_toList]

/-! ## Slices -/

theorem isValid_append (before after : String) :
    String.Pos.Raw.IsValid (before ++ after) ⟨before.utf8ByteSize⟩ :=
  String.Pos.Raw.isValid_iff_exists_append.2 ⟨before, after, rfl, rfl⟩

theorem slice_append (before middle after : String) :
    slice (before ++ middle ++ after) before.utf8ByteSize (before ++ middle).utf8ByteSize =
      .ok middle := by
  have hle : before.utf8ByteSize ≤ (before ++ middle).utf8ByteSize := by
    rw [String.utf8ByteSize_append]
    exact Nat.le_add_right _ _
  have hstart : String.Pos.Raw.IsValid (before ++ middle ++ after) ⟨before.utf8ByteSize⟩ := by
    rw [String.append_assoc]
    exact isValid_append before (middle ++ after)
  have hstop := isValid_append (before ++ middle) after
  have hbytes : ((before ++ middle ++ after).toByteArray.extract before.utf8ByteSize
      (before ++ middle).utf8ByteSize) = middle.toByteArray := by
    rw [String.append_assoc, String.toByteArray_append, String.utf8ByteSize_append,
      ← Nat.add_zero before.utf8ByteSize, Nat.add_assoc,
      ByteArray.extract_append_size_add' String.size_toByteArray.symm, Nat.zero_add,
      String.toByteArray_append, ByteArray.extract_append_eq_left String.size_toByteArray.symm]
  rw [slice, dif_pos ⟨hle, hstart, hstop⟩, Except.ok.injEq, ← String.toByteArray_inj,
    String.toByteArray_extract]
  exact hbytes

/-- Of two beginnings of a text the one with fewer bytes is a beginning of the other. -/
theorem exists_append_of_le (h : before ++ middle = t ++ after)
    (hle : before.utf8ByteSize ≤ t.utf8ByteSize) : ∃ rest, t = before ++ rest := by
  have hchars := congrArg String.toList h
  rw [String.toList_append, String.toList_append] at hchars
  rcases List.append_eq_append_iff.1 hchars with ⟨rest, hrest, -⟩ | ⟨rest, hrest, -⟩
  · exact ⟨String.ofList rest, String.toList_inj.1 (by simpa using hrest)⟩
  · have hbefore : before = t ++ String.ofList rest := String.toList_inj.1 (by simpa using hrest)
    have hsize := congrArg String.utf8ByteSize hbefore
    rw [String.utf8ByteSize_append] at hsize
    have hempty : String.ofList rest = "" := String.utf8ByteSize_eq_zero_iff.1 (by omega)
    rw [hempty, String.append_empty] at hbefore
    exact ⟨"", by rw [hbefore, String.append_empty]⟩

/-- **A slice has a result just if the text is a beginning, the slice, and an end**, and the offsets
are where the slice starts and stops. -/
theorem slice_eq_ok_iff : slice s start stop = .ok middle ↔
    ∃ before after, s = before ++ middle ++ after ∧ start = before.utf8ByteSize ∧
      stop = (before ++ middle).utf8ByteSize := by
  constructor
  · intro h
    have hvalid : start ≤ stop ∧ String.Pos.Raw.IsValid s ⟨start⟩ ∧
        String.Pos.Raw.IsValid s ⟨stop⟩ := by
      by_contra hvalid
      rw [slice, dif_neg hvalid] at h
      cases h
    obtain ⟨hle, hstart, hstop⟩ := hvalid
    obtain ⟨before, rest, hrest, hbefore⟩ := String.Pos.Raw.isValid_iff_exists_append.1 hstart
    obtain ⟨t, after, hafter, ht⟩ := String.Pos.Raw.isValid_iff_exists_append.1 hstop
    obtain rfl : start = before.utf8ByteSize := congrArg String.Pos.Raw.byteIdx hbefore
    obtain rfl : stop = t.utf8ByteSize := congrArg String.Pos.Raw.byteIdx ht
    obtain ⟨middle', rfl⟩ := exists_append_of_le (hrest.symm.trans hafter) hle
    rw [hafter, slice_append] at h
    obtain rfl := Except.ok.inj h
    exact ⟨before, after, hafter, rfl, rfl⟩
  · rintro ⟨before, after, rfl, rfl, rfl⟩
    exact slice_append before middle after

example : (slice "aéb" 1 3).toOption = some "é" ∧ (slice "aéb" 0 2).toOption = none ∧
    (slice "aéb" 3 1).toOption = none ∧ (slice "aéb" 3 5).toOption = none := by decide +kernel

/-- What is between two parts of a text, by its characters. -/
theorem slice_toList (before after : List Char) {middle : List Char}
    (hs : s.toList = before ++ middle ++ after) (hstart : start = byteSize before)
    (hstop : stop = start + byteSize middle) : slice s start stop = .ok (String.ofList middle) := by
  refine slice_eq_ok_iff.2 ⟨String.ofList before, String.ofList after, ?_, hstart, ?_⟩
  · rw [← String.ofList_append, ← String.ofList_append, ← hs, String.ofList_toList]
  · rw [hstop, hstart, ← String.ofList_append]
    exact (byteSize_append before middle).symm

theorem sliceFrom_toList (before : List Char) {after : List Char}
    (hs : s.toList = before ++ after) (hstart : start = byteSize before) :
    sliceFrom s start = .ok (String.ofList after) := by
  refine slice_toList before [] ?_ hstart ?_
  · rw [hs, List.append_nil]
  · rw [← byteSize_toList, hs, byteSize_append, hstart]

end Checked

end JsonShell
