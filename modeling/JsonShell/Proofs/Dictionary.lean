import JsonShell.Dictionary

/-!
# Dictionaries are their values

Two dictionaries with the same value for every key are the same (`Dictionary.Sorted.ext`), so that
what is built in different ways can be compared one key at a time.

In particular a dictionary can be cut down to some keys by looking up each of them
(`Dictionary.only`).  It makes no difference in which order they are given or how often, and what is
left is the dictionary without its other entries (`Dictionary.only_eq_filter`).
-/

set_option autoImplicit false

namespace JsonShell

namespace Dictionary

variable {α : Type} {d e : Dictionary α} {key : String}

/-! ## Dictionaries with the same values -/

theorem mem_of_find? {value : α} (h : find? key d = some value) : (key, value) ∈ d := by
  induction d with
  | nil => cases h
  | cons p rest ih =>
    rw [find?] at h
    split at h
    · rename_i heq
      rw [heq, ← Option.some.inj h]
      exact List.mem_cons_self
    · exact List.mem_cons_of_mem _ (ih h)

theorem Sorted.find?_eq_some_iff {value : α} (h : Sorted d) :
    find? key d = some value ↔ (key, value) ∈ d := by
  refine ⟨mem_of_find?, fun hmem => ?_⟩
  induction d with
  | nil => cases hmem
  | cons p rest ih =>
    obtain ⟨hfirst, hrest⟩ := sorted_cons_iff.1 h
    rcases List.mem_cons.1 hmem with rfl | hmem
    · exact if_pos rfl
    · have hne : key ≠ p.1 := by
        rintro rfl
        exact String.lt_irrefl _ (hfirst p.1 (List.mem_map.2 ⟨_, hmem, rfl⟩))
      rw [find?, if_neg hne]
      exact ih hrest hmem

theorem mem_keys_of_find? {value : α} (h : find? key d = some value) : key ∈ keys d :=
  List.mem_map_of_mem (mem_of_find? h)

theorem find?_eq_none_of_not_mem_keys (h : key ∉ keys d) : find? key d = none := by
  cases hfind : find? key d with
  | none => rfl
  | some value => exact absurd (mem_keys_of_find? hfind) h

/-- The first key comes before all others that are bound. -/
theorem Sorted.le_of_find? {p : String × α} {value : α} (h : Sorted (p :: d))
    (hfind : find? key (p :: d) = some value) : p.1 ≤ key := by
  rcases List.mem_cons.1 (mem_keys_of_find? hfind) with rfl | hmem
  · exact String.le_refl _
  · exact String.not_lt.1 (String.lt_asymm ((sorted_cons_iff.1 h).1 key hmem))

/-- **Dictionaries are determined by their values.** -/
theorem Sorted.ext (hd : Sorted d) (he : Sorted e) (h : ∀ key, find? key d = find? key e) :
    d = e := by
  induction d generalizing e with
  | nil =>
    cases e with
    | nil => rfl
    | cons q e => exact absurd (h q.1) (by simp [find?])
  | cons p d ih =>
    cases e with
    | nil => exact absurd (h p.1) (by simp [find?])
    | cons q e =>
      obtain ⟨hp, hd'⟩ := sorted_cons_iff.1 hd
      obtain ⟨hq, he'⟩ := sorted_cons_iff.1 he
      have hfirst : find? p.1 (p :: d) = some p.2 := if_pos rfl
      have hfirst' : find? q.1 (q :: e) = some q.2 := if_pos rfl
      have hkey : p.1 = q.1 :=
        String.le_antisymm (hd.le_of_find? ((h q.1).trans hfirst'))
          (he.le_of_find? ((h p.1).symm.trans hfirst))
      have hvalue : p.2 = q.2 := by
        rw [← hkey, ← h p.1, hfirst] at hfirst'
        exact Option.some.inj hfirst'
      have htail : ∀ key, find? key d = find? key e := by
        intro key
        by_cases hk : key = p.1
        · -- The first key is not bound again.
          have hnot : key ∉ keys d := fun hmem => String.lt_irrefl _ (hk ▸ hp key hmem)
          have hnot' : key ∉ keys e := fun hmem => String.lt_irrefl _ (hk ▸ hkey ▸ hq key hmem)
          rw [find?_eq_none_of_not_mem_keys hnot, find?_eq_none_of_not_mem_keys hnot']
        · have hsame := h key
          rwa [find?, if_neg hk, find?, if_neg (hkey ▸ hk)] at hsame
      rw [ih hd' he' htail, Prod.ext hkey hvalue]

/-! ## Keys -/

theorem mem_keys_ofList {pairs : List (String × α)} :
    key ∈ keys (ofList pairs) ↔ key ∈ pairs.map Prod.fst := by
  have hfold : ∀ d : Dictionary α, key ∈ keys (pairs.foldl (fun d p => insert p.1 p.2 d) d) ↔
      key ∈ pairs.map Prod.fst ∨ key ∈ keys d := by
    induction pairs with
    | nil => simp
    | cons p rest ih =>
      intro d
      rw [List.foldl_cons, ih, mem_keys_insert, List.map_cons, List.mem_cons, or_assoc,
        or_left_comm]
  rw [ofList, hfold]
  simp [keys]

theorem Sorted.keys_pairwise (h : Sorted d) : (keys d).Pairwise (· < ·) :=
  List.pairwise_map.2 h

/-! ## Cutting down to some keys -/

variable {fields : List String}

/-- Pairs that agree with the values of a function are looked up as those. -/
theorem find?_foldl_insert (value : String → Option α) {pairs : List (String × α)}
    (h : ∀ p ∈ pairs, value p.1 = some p.2) (d : Dictionary α) :
    find? key (pairs.foldl (fun d p => insert p.1 p.2 d) d) =
      if key ∈ pairs.map Prod.fst then value key else find? key d := by
  induction pairs generalizing d with
  | nil => simp
  | cons p rest ih =>
    obtain ⟨hp, hrest⟩ := List.forall_mem_cons.1 h
    rw [List.foldl_cons, ih hrest, find?_insert, List.map_cons]
    by_cases hkey : key = p.1
    · simp [hkey, hp]
    · have hkeys : key ∈ p.1 :: rest.map Prod.fst ↔ key ∈ rest.map Prod.fst := by simp [hkey]
      simp only [hkeys, if_neg hkey]

/-- The dictionary with the values of the given keys only. -/
def only (fields : List String) (d : Dictionary α) : Dictionary α :=
  ofList (fields.filterMap fun f => (find? f d).map fun v => (f, v))

theorem find?_only : find? key (only fields d) = if key ∈ fields then find? key d else none := by
  have hvalues : ∀ p ∈ fields.filterMap (fun f => (find? f d).map fun v => (f, v)),
      find? p.1 d = some p.2 := by
    intro p hp
    obtain ⟨f, -, hf⟩ := List.mem_filterMap.1 hp
    obtain ⟨v, hv, rfl⟩ := Option.map_eq_some_iff.1 hf
    exact hv
  rw [only, ofList, find?_foldl_insert (find? · d) hvalues, find?_nil]
  by_cases hbound : (find? key d).isSome
  · obtain ⟨v, hv⟩ := Option.isSome_iff_exists.1 hbound
    have hkeys : key ∈ (fields.filterMap fun f => (find? f d).map fun v => (f, v)).map Prod.fst ↔
        key ∈ fields := by
      simp only [List.mem_map, List.mem_filterMap, Option.map_eq_some_iff]
      constructor
      · rintro ⟨_, ⟨f, hf, w, -, rfl⟩, rfl⟩
        exact hf
      · intro hmem
        exact ⟨(key, v), ⟨key, hmem, v, hv, rfl⟩, rfl⟩
    simp only [hkeys]
  · rw [Option.not_isSome_iff_eq_none.1 hbound]
    simp

theorem sorted_only (fields : List String) (d : Dictionary α) : Sorted (only fields d) :=
  sorted_ofList _

theorem only_only (fields others : List String) (d : Dictionary α) :
    only others (only fields d) = only (fields.filter (· ∈ others)) d := by
  refine (sorted_only _ _).ext (sorted_only _ _) fun key => ?_
  simp only [find?_only, List.mem_filter, decide_eq_true_eq]
  by_cases hfields : key ∈ fields <;> by_cases hothers : key ∈ others <;> simp [hfields, hothers]

/-- Only which keys are given matters. -/
theorem only_congr {others : List String} (h : ∀ key, key ∈ fields ↔ key ∈ others) :
    only fields d = only others d := by
  refine (sorted_only _ _).ext (sorted_only _ _) fun key => ?_
  simp only [find?_only, h]

theorem find?_filter :
    find? key (d.filter fun p => p.1 ∈ fields) = if key ∈ fields then find? key d else none := by
  induction d with
  | nil => simp
  | cons p rest ih =>
    by_cases hp : p.1 ∈ fields
    · rw [List.filter_cons_of_pos (by simpa using hp), find?, find?, ih]
      by_cases hkey : key = p.1
      · simp [hkey, hp]
      · simp [hkey]
    · rw [List.filter_cons_of_neg (by simpa using hp), ih, find?]
      by_cases hkey : key = p.1
      · simp [hkey, hp]
      · simp [hkey]

/-- **What is left are the entries with the given keys**, with their values as they were. -/
theorem only_eq_filter (h : Sorted d) : only fields d = d.filter fun p => p.1 ∈ fields := by
  refine (sorted_only _ _).ext (List.Pairwise.filter _ h) fun key => ?_
  rw [find?_only, find?_filter]

end Dictionary

end JsonShell
