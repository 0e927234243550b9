import JsonShell.Json.Value
import JsonShell.Proofs.Dictionary

/-!
# The entries of a value at all levels

An object and a list are looked at in the same way: a step leads from a container to one of its
values, by a key or by an index (`Value.children`).  An entry is told by the steps that lead to it.

`Value.allEntries` lists the entries of a value at all levels, those of a container right after its
own.  The steps decide what is on the list (`Value.mem_allEntries_iff`) and in which order: the
entries come in the lexicographic order of their steps (`Value.allEntries_pairwise`), which is what
depth first means.

A proof about all levels is an induction over the steps (`Value.induction_children`).
-/

set_option autoImplicit false

namespace JsonShell.Value

/-! ## Steps -/

/-- A step from a container to one of its values. -/
inductive Step where
  | key (key : String)
  | index (index : Nat)
deriving DecidableEq, Repr

/-- Keys in their order, and indices in theirs. -/
inductive Step.Before : Step → Step → Prop
  | key {k l : String} (h : k < l) : Before (.key k) (.key l)
  | index {i j : Nat} (h : i < j) : Before (.index i) (.index j)

theorem Step.Before.irrefl (s : Step) : ¬ s.Before s := by
  intro h
  cases h with
  | key h => exact String.lt_irrefl _ h
  | index h => exact Nat.lt_irrefl _ h

/-- The steps from a value, and where they lead. -/
def children : Value → List (Step × Value)
  | .map entries => entries.map fun p => (.key p.1, p.2)
  | .list items => items.zipIdx.map fun p => (.index p.2, p.1)
  | _ => []

/-- The value that a step leads to. -/
def at? : Value → Step → Option Value
  | .map entries, .key k => Dictionary.find? k entries
  | .list items, .index i => items[i]?
  | _, _ => none

/-- The value that some steps lead to, one after the other. -/
def follow? : Value → List Step → Option Value
  | v, [] => some v
  | v, s :: rest => (v.at? s).bind fun w => w.follow? rest

variable {v w : Value} {s : Step}

theorem mem_children_iff (h : v.WellFormed) : (s, w) ∈ v.children ↔ v.at? s = some w := by
  cases v with
  | map entries =>
    cases s with
    | key k =>
      rw [at?, Dictionary.Sorted.find?_eq_some_iff h.1]
      simp [children]
    | index i => simp [children, at?]
  | list items =>
    cases s with
    | key k => simp [children, at?]
    | index i =>
      have hget : (w, i) ∈ items.zipIdx ↔ items[i]? = some w := List.mem_zipIdx_iff_getElem?
      rw [at?, ← hget]
      constructor
      · intro hmem
        obtain ⟨p, hp, heq⟩ := List.mem_map.1 hmem
        cases heq
        exact hp
      · exact fun hmem => List.mem_map.2 ⟨(w, i), hmem, rfl⟩
  | _ => simp [children, at?]

theorem mem_children_map {entries : List (String × Value)} {p : String × Value}
    (h : p ∈ entries) : (.key p.1, p.2) ∈ (map entries).children :=
  List.mem_map_of_mem h

theorem exists_mem_children_list {items : List Value} (h : v ∈ items) :
    ∃ i, (.index i, v) ∈ (list items).children := by
  obtain ⟨i, hi⟩ := List.mem_iff_getElem?.1 h
  have hmem : (v, i) ∈ items.zipIdx := List.mem_zipIdx_iff_getElem?.2 hi
  exact ⟨i, List.mem_map_of_mem hmem⟩

theorem allWellFormed_iff {items : List Value} :
    AllWellFormed items ↔ ∀ v ∈ items, v.WellFormed := by
  induction items with
  | nil => simp [AllWellFormed]
  | cons v rest ih => simp [AllWellFormed, ih]

theorem entriesWellFormed_iff {entries : List (String × Value)} :
    EntriesWellFormed entries ↔ ∀ p ∈ entries, p.2.WellFormed := by
  induction entries with
  | nil => simp [EntriesWellFormed]
  | cons p rest ih => simp [EntriesWellFormed, ih]

/-- What holds of all values of a container holds of what its steps lead to. -/
theorem WellFormed.of_mem_children (h : v.WellFormed) (hchild : (s, w) ∈ v.children) :
    w.WellFormed := by
  cases v with
  | map entries =>
    obtain ⟨p, hp, heq⟩ := List.mem_map.1 hchild
    obtain ⟨-, rfl⟩ := Prod.mk.inj heq
    exact entriesWellFormed_iff.1 h.2 p hp
  | list items =>
    obtain ⟨p, hp, heq⟩ := List.mem_map.1 hchild
    obtain ⟨-, rfl⟩ := Prod.mk.inj heq
    exact allWellFormed_iff.1 h p.1 (List.fst_mem_of_mem_zipIdx hp)
  | _ => cases hchild

theorem children_pairwise (h : v.WellFormed) :
    v.children.Pairwise fun p q => p.1.Before q.1 := by
  cases v with
  | map entries => exact List.pairwise_map.2 (h.1.imp fun hlt => .key hlt)
  | list items =>
    have hindices : items.zipIdx.Pairwise fun p q => p.2 < q.2 := by
      rw [← List.pairwise_map, List.zipIdx_map_snd]
      exact List.pairwise_lt_range'
    exact List.pairwise_map.2 (hindices.imp fun hlt => .index hlt)
  | _ => exact List.Pairwise.nil

theorem sizeOf_lt_of_mem_children {p : Step × Value} (h : p ∈ v.children) :
    sizeOf p.2 < sizeOf v := by
  cases v with
  | map entries =>
    obtain ⟨q, hq, rfl⟩ := List.mem_map.1 h
    have hentries := List.sizeOf_lt_of_mem hq
    have hpair : sizeOf q = 1 + sizeOf q.1 + sizeOf q.2 := by
      cases q
      rfl
    rw [map.sizeOf_spec]
    show sizeOf q.2 < 1 + sizeOf entries
    omega
  | list items =>
    obtain ⟨q, hq, rfl⟩ := List.mem_map.1 h
    have hitems := List.sizeOf_lt_of_mem (List.fst_mem_of_mem_zipIdx hq)
    rw [list.sizeOf_spec]
    show sizeOf q.1 < 1 + sizeOf items
    omega
  | _ => cases h

/-- **Induction over all levels**: a property of a value may be proved from those of the values that
a step leads to. -/
theorem induction_children {motive : Value → Prop}
    (step : ∀ v : Value, (∀ p ∈ v.children, motive p.2) → motive v) (v : Value) : motive v :=
  step v fun p _hp => induction_children step p.2
termination_by sizeOf v
decreasing_by exact sizeOf_lt_of_mem_children _hp

/-! ## Entries -/

/-- An entry at some level: the steps to the container it is in, the last step, and its value. -/
structure Entry where
  above : List Step
  step : Step
  value : Value

namespace Entry

/-- The steps that lead to an entry. -/
def address (e : Entry) : List Step :=
  e.above ++ [e.step]

/-- The entry seen from a container that it is in. -/
def below (s : Step) (e : Entry) : Entry :=
  ⟨s :: e.above, e.step, e.value⟩

/-- Depth first: an entry comes before those in it, and of two others the one that turns off
first. -/
def Before (e f : Entry) : Prop :=
  List.Lex Step.Before e.address f.address

theorem Before.ne {e f : Entry} (h : e.Before f) : e ≠ f := by
  rintro rfl
  exact List.lex_irrefl Step.Before.irrefl _ h

/-- The steps of an entry are at least one. -/
theorem address_ne_nil (e : Entry) : e.address ≠ [] :=
  List.append_ne_nil_of_right_ne_nil _ (List.cons_ne_nil _ _)

theorem before_below (s : Step) (w : Value) (e : Entry) : Before ⟨[], s, w⟩ (e.below s) := by
  obtain ⟨t, steps, haddress⟩ := List.exists_cons_of_ne_nil e.address_ne_nil
  show List.Lex Step.Before [s] (s :: e.address)
  rw [haddress]
  exact .cons .nil

end Entry

/-- The entries of a value at all levels, those of a container after its own. -/
def allEntries (v : Value) : List Entry :=
  v.children.attach.flatMap fun p =>
    ⟨[], p.1.1, p.1.2⟩ :: (allEntries p.1.2).map (Entry.below p.1.1)
termination_by sizeOf v
decreasing_by exact sizeOf_lt_of_mem_children p.2

/-- The entries of what one step leads to, and its own before them. -/
def childEntries (p : Step × Value) : List Entry :=
  ⟨[], p.1, p.2⟩ :: p.2.allEntries.map (Entry.below p.1)

theorem allEntries_eq (v : Value) : v.allEntries = v.children.flatMap childEntries := by
  have hattach : v.children.attach.map Subtype.val = v.children := List.attach_map_subtype_val _
  have hmap := List.flatMap_map Subtype.val childEntries v.children.attach
  rw [allEntries]
  exact hmap.symm.trans (congrArg (List.flatMap childEntries) hattach)

/-- The first step to an entry of a child is the one to the child. -/
theorem exists_address_of_mem_childEntries {p : Step × Value} {e : Entry}
    (h : e ∈ childEntries p) : ∃ steps, e.address = p.1 :: steps := by
  rcases List.mem_cons.1 h with rfl | h
  · exact ⟨[], rfl⟩
  · obtain ⟨f, -, rfl⟩ := List.mem_map.1 h
    exact ⟨f.address, rfl⟩

/-- **The entries of a value are what steps lead to.** -/
theorem mem_allEntries_iff (h : v.WellFormed) {e : Entry} :
    e ∈ v.allEntries ↔ v.follow? e.address = some e.value := by
  induction v using induction_children generalizing e with
  | step v ih =>
    rw [allEntries_eq, List.mem_flatMap]
    constructor
    · rintro ⟨⟨s, w⟩, hchild, hmem⟩
      have hw := h.of_mem_children hchild
      have hstep := (mem_children_iff h).1 hchild
      rcases List.mem_cons.1 hmem with rfl | hmem
      · show (v.at? s).bind (fun w => w.follow? []) = some w
        rw [hstep]
        rfl
      · obtain ⟨f, hf, rfl⟩ := List.mem_map.1 hmem
        show (v.at? s).bind (fun w => w.follow? f.address) = some f.value
        rw [hstep]
        exact (ih _ hchild hw).1 hf
    · intro hfollow
      obtain ⟨above, s, w⟩ := e
      cases above with
      | nil =>
        have hstep : (v.at? s).bind (fun u => u.follow? []) = some w := hfollow
        obtain ⟨u, hu, hsome⟩ := Option.bind_eq_some_iff.1 hstep
        cases hsome
        exact ⟨(s, w), (mem_children_iff h).2 hu, List.mem_cons_self⟩
      | cons t above =>
        have hstep : (v.at? t).bind (fun u => u.follow? (above ++ [s])) = some w := hfollow
        obtain ⟨u, hu, hrest⟩ := Option.bind_eq_some_iff.1 hstep
        have hchild := (mem_children_iff h).2 hu
        have hmem : ⟨above, s, w⟩ ∈ u.allEntries :=
          (ih _ hchild (h.of_mem_children hchild)).2 hrest
        exact ⟨(t, u), hchild, List.mem_cons_of_mem _ (List.mem_map_of_mem hmem)⟩

/-- **The entries come depth first.** -/
theorem allEntries_pairwise (h : v.WellFormed) : v.allEntries.Pairwise Entry.Before := by
  induction v using induction_children with
  | step v ih =>
    rw [allEntries_eq, List.pairwise_flatMap]
    constructor
    · rintro ⟨s, w⟩ hchild
      have hw : w.allEntries.Pairwise Entry.Before := ih _ hchild (h.of_mem_children hchild)
      refine List.pairwise_cons.2 ⟨?_, List.pairwise_map.2 (hw.imp fun hlex => .cons hlex)⟩
      intro e he
      obtain ⟨f, -, rfl⟩ := List.mem_map.1 he
      exact Entry.before_below s w f
    · refine (children_pairwise h).imp fun {p q} hbefore e he f hf => ?_
      obtain ⟨steps, heq⟩ := exists_address_of_mem_childEntries he
      obtain ⟨steps', heq'⟩ := exists_address_of_mem_childEntries hf
      show List.Lex Step.Before e.address f.address
      rw [heq, heq']
      exact .rel hbefore

theorem allEntries_nodup (h : v.WellFormed) : v.allEntries.Nodup :=
  (allEntries_pairwise h).imp Entry.Before.ne

/-! ## Texts -/

/-- The text in a step. -/
def Step.texts : Step → List String
  | .key k => [k]
  | .index _ => []

/-- The text that a value is. -/
def ownTexts : Value → List String
  | .string s => [s]
  | _ => []

/-- The keys and the strings of a value at all levels. -/
def texts (v : Value) : List String :=
  v.ownTexts ++ v.allEntries.flatMap fun e => e.step.texts ++ e.value.ownTexts

theorem texts_subset_of_mem_allEntries {e : Entry} (he : e ∈ v.allEntries) :
    e.step.texts ++ e.value.ownTexts ⊆ v.texts := fun _ ht =>
  List.mem_append_right _ (List.mem_flatMap.2 ⟨e, he, ht⟩)

theorem childEntries_subset {p : Step × Value} (hchild : p ∈ v.children) :
    childEntries p ⊆ v.allEntries := by
  intro e he
  rw [allEntries_eq]
  exact List.mem_flatMap.2 ⟨p, hchild, he⟩

/-- The texts of what a step leads to are texts of the container, and so is the key. -/
theorem texts_subset_of_mem_children (hchild : (s, w) ∈ v.children) :
    s.texts ++ w.texts ⊆ v.texts := by
  have hentries := childEntries_subset hchild
  have hown := texts_subset_of_mem_allEntries (hentries List.mem_cons_self)
  intro t ht
  rcases List.mem_append.1 ht with ht | ht
  · exact hown (List.mem_append_left _ ht)
  · rcases List.mem_append.1 ht with ht | ht
    · exact hown (List.mem_append_right _ ht)
    · obtain ⟨e, he, ht⟩ := List.mem_flatMap.1 ht
      have hbelow : e.below s ∈ childEntries (s, w) :=
        List.mem_cons_of_mem _ (List.mem_map_of_mem he)
      exact texts_subset_of_mem_allEntries (hentries hbelow) ht

end JsonShell.Value
