/-!
# Dictionaries

A dictionary is a list of pairs whose keys increase strictly in the order of their code points.  It
is the form of JSON objects and of the variable store, and the order of its pairs is the order in
which they are shown.

`insert` and `erase` keep the keys increasing (`Sorted.insert`, `Sorted.erase`), and `find?` reads
back what they did (`find?_insert`, `find?_erase`).
-/

set_option autoImplicit false

namespace JsonShell

/-- Pairs of a key and a value, with increasing keys. -/
abbrev Dictionary (α : Type) := List (String × α)

namespace Dictionary

variable {α : Type}

/-- The keys increase strictly. -/
def Sorted (d : Dictionary α) : Prop :=
  d.Pairwise fun p q => p.1 < q.1

/-- Binds `key` to `value`, in place of the value it had. -/
def insert (key : String) (value : α) : Dictionary α → Dictionary α
  | [] => [(key, value)]
  | (k, v) :: rest =>
    if key < k then (key, value) :: (k, v) :: rest
    else if key = k then (key, value) :: rest
    else (k, v) :: insert key value rest

/-- Removes the binding of `key`. -/
def erase (key : String) : Dictionary α → Dictionary α
  | [] => []
  | (k, v) :: rest => if key = k then erase key rest else (k, v) :: erase key rest

/-- The value bound to `key`. -/
def find? (key : String) : Dictionary α → Option α
  | [] => none
  | (k, v) :: rest => if key = k then some v else find? key rest

/-- The keys, in order. -/
def keys (d : Dictionary α) : List String :=
  d.map Prod.fst

/-- The dictionary of the pairs; of two pairs with the same key the later one counts. -/
def ofList (pairs : List (String × α)) : Dictionary α :=
  pairs.foldl (fun d p => insert p.1 p.2 d) []

/-! ## Reading back -/

@[simp] theorem find?_nil (key : String) : find? key ([] : Dictionary α) = none := rfl

theorem find?_insert (key key' : String) (value : α) (d : Dictionary α) :
    find? key' (insert key value d) = if key' = key then some value else find? key' d := by
  induction d with
  | nil => simp [insert, find?]
  | cons p rest ih =>
    obtain ⟨k, v⟩ := p
    rw [insert]
    split
    · simp [find?]
    · split
      · rename_i h
        subst h
        by_cases hk : key' = key <;> simp [find?, hk]
      · rename_i h
        by_cases hk : key' = k
        · subst hk
          simp [find?, Ne.symm h]
        · simp [find?, hk, ih]

theorem find?_erase (key key' : String) (d : Dictionary α) :
    find? key' (erase key d) = if key' = key then none else find? key' d := by
  induction d with
  | nil => simp [erase]
  | cons p rest ih =>
    obtain ⟨k, v⟩ := p
    rw [erase]
    split
    · rename_i h
      subst h
      rw [ih]
      by_cases hk : key' = key <;> simp [find?, hk]
    · rename_i h
      by_cases hk : key' = k
      · subst hk
        simp [find?, Ne.symm h]
      · simp [find?, hk, ih]

/-! ## The order of the keys -/

theorem mem_keys_insert {key k : String} {value : α} {d : Dictionary α} :
    k ∈ keys (insert key value d) ↔ k = key ∨ k ∈ keys d := by
  induction d with
  | nil => simp [insert, keys]
  | cons p rest ih =>
    obtain ⟨k', v⟩ := p
    rw [insert]
    split
    · simp [keys]
    · split
      · rename_i h
        subst h
        simp [keys]
      · simp only [keys, List.map_cons, List.mem_cons] at ih ⊢
        rw [ih]
        exact or_left_comm

theorem mem_keys_of_mem_erase {key k : String} {d : Dictionary α} (h : k ∈ keys (erase key d)) :
    k ∈ keys d := by
  induction d with
  | nil => simp [erase, keys] at h
  | cons p rest ih =>
    obtain ⟨k', v⟩ := p
    rw [erase] at h
    split at h
    · simp only [keys, List.map_cons, List.mem_cons] at ih ⊢
      exact Or.inr (ih h)
    · simp only [keys, List.map_cons, List.mem_cons] at ih h ⊢
      exact h.imp_right ih

theorem sorted_cons_iff {p : String × α} {d : Dictionary α} :
    Sorted (p :: d) ↔ (∀ k ∈ keys d, p.1 < k) ∧ Sorted d := by
  simp [Sorted, keys, List.pairwise_cons]

theorem Sorted.insert {d : Dictionary α} (h : Sorted d) (key : String) (value : α) :
    Sorted (Dictionary.insert key value d) := by
  induction d with
  | nil => simp [Dictionary.insert, Sorted]
  | cons p rest ih =>
    obtain ⟨k, v⟩ := p
    obtain ⟨hk, hrest⟩ := sorted_cons_iff.1 h
    rw [Dictionary.insert]
    split
    · rename_i hlt
      refine sorted_cons_iff.2 ⟨fun k' hk' => ?_, h⟩
      simp only [keys, List.map_cons, List.mem_cons] at hk'
      rcases hk' with rfl | hk'
      · exact hlt
      · exact String.lt_trans hlt (hk k' hk')
    · split
      · rename_i heq
        subst heq
        exact sorted_cons_iff.2 ⟨hk, hrest⟩
      · rename_i hlt hne
        refine sorted_cons_iff.2 ⟨fun k' hk' => ?_, ih hrest⟩
        rcases mem_keys_insert.1 hk' with rfl | hk'
        · exact Decidable.byContradiction fun hge =>
            hne (String.le_antisymm (String.not_lt.1 hge) (String.not_lt.1 hlt))
        · exact hk k' hk'

theorem Sorted.erase {d : Dictionary α} (h : Sorted d) (key : String) :
    Sorted (Dictionary.erase key d) := by
  induction d with
  | nil => simp [Dictionary.erase, Sorted]
  | cons p rest ih =>
    obtain ⟨k, v⟩ := p
    obtain ⟨hk, hrest⟩ := sorted_cons_iff.1 h
    rw [Dictionary.erase]
    split
    · exact ih hrest
    · exact sorted_cons_iff.2 ⟨fun k' hk' => hk k' (mem_keys_of_mem_erase hk'), ih hrest⟩

theorem sorted_ofList (pairs : List (String × α)) : Sorted (ofList pairs) := by
  have : ∀ d : Dictionary α, Sorted d →
      Sorted (pairs.foldl (fun d p => Dictionary.insert p.1 p.2 d) d) := by
    induction pairs with
    | nil => exact fun d h => h
    | cons p rest ih => exact fun d h => ih _ (h.insert p.1 p.2)
  exact this [] List.Pairwise.nil

end Dictionary

end JsonShell
