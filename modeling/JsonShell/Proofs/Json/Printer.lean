import JsonShell.Json.Printer
import JsonShell.Proofs.Json.Entry
import JsonShell.Proofs.Text.Numeral

/-!
# No control characters in JSON

Whatever characters the strings of a value have, none below U+0020 is written: strings are escaped,
and numbers are digits with a few marks (`Number.shown_text`).  So compact JSON is one line
(`Value.shown_compactChars`), and indented JSON has no other control character than its line breaks
(`Value.not_mem_indentedChars`).  The plain form of a value has such a character only if the value
is a string that has it (`Value.not_mem_text`).
-/

set_option autoImplicit false

namespace JsonShell

/-- No character below U+0020 is in the text. -/
def Shown (cs : List Char) : Prop :=
  ∀ c ∈ cs, 0x20 ≤ c.toNat

namespace Shown

variable {cs rest : List Char} {c x : Char}

@[simp] theorem nil : Shown [] :=
  List.forall_mem_nil _

@[simp] theorem cons_iff : Shown (c :: cs) ↔ 0x20 ≤ c.toNat ∧ Shown cs :=
  List.forall_mem_cons

@[simp] theorem append_iff : Shown (cs ++ rest) ↔ Shown cs ∧ Shown rest :=
  List.forall_mem_append

theorem replicate (n : Nat) (h : 0x20 ≤ c.toNat) : Shown (List.replicate n c) := by
  intro d hd
  rwa [(List.mem_replicate.1 hd).2]

theorem of_subset (h : Shown cs) (hsubset : rest ⊆ cs) : Shown rest := fun c hc =>
  h c (hsubset hc)

theorem of_isDigit (h : ∀ c ∈ cs, c.isDigit = true) : Shown cs := by
  intro c hc
  have hbounds : 48 ≤ c.toNat ∧ c.toNat ≤ 57 := Char.isDigit_iff_toNat.1 (h c hc)
  omega

theorem not_mem (h : Shown cs) (hx : x.toNat < 0x20) : x ∉ cs := fun hmem =>
  Nat.not_le.2 hx (h x hmem)

end Shown

/-! ## Numbers -/

theorem shown_toDigits (n : Nat) : Shown (Nat.toDigits 10 n) :=
  Shown.of_isDigit fun _ hc => Numeral.isDigit_of_mem_toDigits hc

theorem shown_toString (n : Int) : Shown (toString n).toList := fun c hc =>
  Nat.le_trans (by decide) (Numeral.toNat_of_mem_toString hc).1

theorem Decimal.Layout.shown_write (layout : Decimal.Layout) {digits : List Char}
    (h : Shown digits) (order : Int) : Shown (layout.write digits order) := by
  have hzeros : ∀ n, Shown (List.replicate n '0') := fun n => Shown.replicate n (by decide)
  have htake : ∀ n, Shown (digits.take n) := fun n => h.of_subset (List.take_subset n digits)
  have hdrop : ∀ n, Shown (digits.drop n) := fun n => h.of_subset (List.drop_subset n digits)
  unfold Decimal.Layout.write
  split
  · split
    · dsimp only
      split <;> simp [htake, hdrop, hzeros]
    · simp [hzeros, h]
  · have hsign : 0x20 ≤ (if 0 ≤ order then '+' else '-').toNat := by
      split <;> decide
    rcases digits with _ | ⟨first, _ | ⟨second, rest⟩⟩
    · simp [hsign, shown_toDigits]
    · simpa [hsign, shown_toDigits] using h
    · simpa [hsign, shown_toDigits] using h

/-- **Numbers are written without control characters.** -/
theorem Number.shown_text (n : Number) : Shown n.text.toList := by
  cases n with
  | integer n => exact shown_toString n
  | float f =>
    have hsign : Shown (if f.negative then ['-'] else []) := by
      split <;> simp
    rw [text, Decimal.Layout.format]
    dsimp only
    split
    · rw [String.toList_ofList, Shown.append_iff]
      exact ⟨hsign, Decimal.Layout.shown_write _ (by simp) _⟩
    · rw [String.toList_ofList, Shown.append_iff]
      exact ⟨hsign, Decimal.Layout.shown_write _ (shown_toDigits _) _⟩

namespace Value

variable {c x : Char}

/-! ## Strings -/

theorem shown_escapeChar (c : Char) : Shown (escapeChar c) := by
  have hdigits : ∀ k < 16, 0x20 ≤ (Nat.digitChar k).toNat := by decide
  have hhex : ∀ n, 0x20 ≤ (hexDigit n).toNat := fun n => hdigits _ (Nat.mod_lt n (by decide))
  rw [escapeChar]
  repeat' split
  all_goals simp [hhex]
  omega

theorem shown_quote (s : String) : Shown (quote s) := by
  have hchars : Shown (s.toList.flatMap escapeChar) := by
    intro c hc
    obtain ⟨d, -, hc⟩ := List.mem_flatMap.1 hc
    exact shown_escapeChar d c hc
  simp [quote, hchars]

theorem shown_boolText (b : Bool) : Shown (boolText b).toList := by
  cases b <;> simp [boolText]

/-! ## Values -/

theorem shown_compactItems {items : List Value} (h : ∀ v ∈ items, Shown v.compactChars) :
    Shown (compactItems items) := by
  induction items with
  | nil => exact Shown.nil
  | cons v rest ih =>
    obtain ⟨hv, hrest⟩ := List.forall_mem_cons.1 h
    cases rest with
    | nil => exact hv
    | cons w rest => simp [compactItems, hv, ih hrest]

theorem shown_compactEntries {entries : List (String × Value)}
    (h : ∀ p ∈ entries, Shown p.2.compactChars) : Shown (compactEntries entries) := by
  induction entries with
  | nil => exact Shown.nil
  | cons p rest ih =>
    obtain ⟨hp, hrest⟩ := List.forall_mem_cons.1 h
    cases rest with
    | nil => simp [compactEntries, shown_quote, hp]
    | cons q rest => simp [compactEntries, shown_quote, hp, ih hrest]

/-- **Compact JSON has no control characters.** -/
theorem shown_compactChars (v : Value) : Shown v.compactChars := by
  induction v using induction_children with
  | step v ih =>
    cases v with
    | string s => exact shown_quote s
    | number n => exact n.shown_text
    | bool b => exact shown_boolText b
    | null => simp [compactChars]
    | list items =>
      have hitems : Shown (compactItems items) := shown_compactItems fun v hv => by
        obtain ⟨i, hi⟩ := exists_mem_children_list hv
        exact ih _ hi
      simp [compactChars, hitems]
    | map entries =>
      have hentries : Shown (compactEntries entries) := shown_compactEntries fun p hp =>
        ih _ (mem_children_map hp)
      simp [compactChars, hentries]

/-- Such a character is in the plain form of a string only. -/
theorem not_mem_text (hx : x.toNat < 0x20) {v : Value} (h : ∀ s ∈ v.ownTexts, x ∉ s.toList) :
    x ∉ v.text.toList := by
  cases v with
  | string s => exact h s List.mem_cons_self
  | number n => exact n.shown_text.not_mem hx
  | bool b => exact (shown_boolText b).not_mem hx
  | null => exact Shown.not_mem (by simp [text]) hx
  | list items =>
    rw [text, compact, String.toList_ofList]
    exact (shown_compactChars _).not_mem hx
  | map entries =>
    rw [text, compact, String.toList_ofList]
    exact (shown_compactChars _).not_mem hx

/-! ## Indented JSON -/

section Indented

variable (hx : x.toNat < 0x20) (hne : x ≠ '\n') {level : Nat}
include hx hne

theorem not_mem_newLine (level : Nat) : x ∉ newLine level := by
  have hspace : x ≠ ' ' := by
    rintro rfl
    exact absurd hx (by decide)
  simp [newLine, hne, hspace]

theorem not_mem_indentedItems {items : List Value}
    (h : ∀ v ∈ items, x ∉ v.indentedChars level) : x ∉ indentedItems level items := by
  have hcomma : x ≠ ',' := by
    rintro rfl
    exact absurd hx (by decide)
  induction items with
  | nil => exact List.not_mem_nil
  | cons v rest ih =>
    obtain ⟨hv, hrest⟩ := List.forall_mem_cons.1 h
    cases rest with
    | nil => exact hv
    | cons w rest => simp [indentedItems, hv, hcomma, not_mem_newLine hx hne, ih hrest]

theorem not_mem_indentedEntries {entries : List (String × Value)}
    (h : ∀ p ∈ entries, x ∉ p.2.indentedChars level) : x ∉ indentedEntries level entries := by
  have hmarks : x ≠ ',' ∧ x ≠ ':' ∧ x ≠ ' ' := by
    refine ⟨?_, ?_, ?_⟩
    all_goals
      rintro rfl
      exact absurd hx (by decide)
  have hquote : ∀ s, x ∉ quote s := fun s => (shown_quote s).not_mem hx
  induction entries with
  | nil => exact List.not_mem_nil
  | cons p rest ih =>
    obtain ⟨hp, hrest⟩ := List.forall_mem_cons.1 h
    cases rest with
    | nil => simp [indentedEntries, hquote, hmarks, hp]
    | cons q rest =>
      simp [indentedEntries, hquote, hmarks, hp, not_mem_newLine hx hne, ih hrest]

/-- **Indented JSON has no control characters but line breaks.** -/
theorem not_mem_indentedChars (v : Value) (level : Nat) : x ∉ v.indentedChars level := by
  have hmarks : x ≠ '[' ∧ x ≠ ']' ∧ x ≠ '\x7b' ∧ x ≠ '\x7d' := by
    refine ⟨?_, ?_, ?_, ?_⟩
    all_goals
      rintro rfl
      exact absurd hx (by decide)
  induction v using induction_children generalizing level with
  | step v ih =>
    cases v with
    | string s => exact (shown_quote s).not_mem hx
    | number n => exact n.shown_text.not_mem hx
    | bool b => exact (shown_boolText b).not_mem hx
    | null => exact Shown.not_mem (by simp [indentedChars]) hx
    | list items =>
      have hitems : x ∉ indentedItems (level + 1) items :=
        not_mem_indentedItems hx hne fun v hv => by
          obtain ⟨i, hi⟩ := exists_mem_children_list hv
          exact ih _ hi (level + 1)
      rw [indentedChars]
      split <;> simp [hmarks, not_mem_newLine hx hne, hitems]
    | map entries =>
      have hentries : x ∉ indentedEntries (level + 1) entries :=
        not_mem_indentedEntries hx hne fun p hp => ih _ (mem_children_map hp) (level + 1)
      rw [indentedChars]
      split <;> simp [hmarks, not_mem_newLine hx hne, hentries]

end Indented

end Value

end JsonShell
