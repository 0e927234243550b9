import JsonShell.Text.Utf8

/-!
# Encoded text is read back

A character takes up to four bytes.  The leading one says how many there are and bounds the second
one, so that neither surrogates nor characters that need fewer bytes are read.  No character that is
encoded is beyond those bounds (`scanFrom_encodeChar`), so decoding gives the text back.

The more bytes a character takes the greater is the leading one, so that the order of texts is the
order of their bytes (`encode_lt`).
-/

set_option autoImplicit false

namespace JsonShell.Utf8

/-! ## Bytes of a character -/

theorem toNat_ofNat {n : Nat} (h : n < 256) : (UInt8.ofNat n).toNat = n :=
  UInt8.toNat_ofNat_of_lt' h

theorem toNat_lt (c : Char) : c.toNat < 0x110000 := by
  have hvalid : c.toNat.isValidChar := c.valid
  rcases hvalid with h | h <;> omega

variable {n low high bits : Nat}

/-- A tail that is not the last one. -/
theorem scanFrom_tail (owed read : Nat) (rest : Bytes) (hlow : low ≤ n) (hhigh : n ≤ high)
    (hbyte : n < 256) :
    scanFrom (some ⟨owed + 2, low, high, bits, read⟩) (UInt8.ofNat n :: rest) =
      scanFrom (some ⟨owed + 1, 0x80, 0xBF, bits * 64 + (n - 0x80), read + 1⟩) rest := by
  rw [scanFrom, toNat_ofNat hbyte, if_pos ⟨hlow, hhigh⟩]
  exact if_neg (by simp)

/-- The last tail of a character. -/
theorem scanFrom_lastTail (read : Nat) (rest : Bytes) (hlow : low ≤ n) (hhigh : n ≤ high)
    (hbyte : n < 256) :
    scanFrom (some ⟨1, low, high, bits, read⟩) (UInt8.ofNat n :: rest) =
      .char (Char.ofNat (bits * 64 + (n - 0x80))) :: scanFrom none rest := by
  rw [scanFrom, toNat_ofNat hbyte, if_pos ⟨hlow, hhigh⟩]
  exact if_pos (Nat.le_refl 1)

theorem scanFrom_start {p : Pending} (rest : Bytes)
    (h : start (UInt8.ofNat n) = .more p) :
    scanFrom none (UInt8.ofNat n :: rest) = scanFrom (some p) rest := by
  rw [scanFrom, h]

/-! ## Leading bytes -/

theorem start_one (h : n < 0x80) : start (UInt8.ofNat n) = .whole (Char.ofNat n) := by
  rw [start, toNat_ofNat (by omega)]
  exact if_pos h

theorem start_two (h : 0xC2 ≤ n ∧ n ≤ 0xDF) :
    start (UInt8.ofNat n) = .more ⟨1, 0x80, 0xBF, n - 0xC0, 1⟩ := by
  rw [start, toNat_ofNat (by omega)]
  rw [if_neg (by omega), if_pos h]

/-- Of three bytes, the second one is in the bounds that the first one sets. -/
theorem exists_start_three {v : Nat} (hmin : 0x800 ≤ v) (hmax : v ≤ 0xFFFF)
    (hvalid : v.isValidChar) :
    ∃ low high, start (UInt8.ofNat (v / 4096 % 16 + 0xE0)) = .more ⟨2, low, high, v / 4096, 1⟩ ∧
      low ≤ v / 64 % 64 + 0x80 ∧ v / 64 % 64 + 0x80 ≤ high := by
  have hlead : v / 4096 % 16 + 0xE0 = v / 4096 + 0xE0 := by omega
  have hnot : ¬ (0xD800 ≤ v ∧ v ≤ 0xDFFF) := by
    rcases hvalid with h | h <;> omega
  rw [start, toNat_ofNat (by omega), hlead]
  rw [if_neg (by omega), if_neg (by omega)]
  -- The first bound leaves out what two bytes can hold, the second one the surrogates.
  split
  · rename_i hfirst
    exact ⟨0xA0, 0xBF, by rw [show v / 4096 = 0 by omega], by omega, by omega⟩
  · split
    · exact ⟨0x80, 0x9F, by rw [show v / 4096 = 0xD by omega], by omega, by omega⟩
    · rw [if_pos (by omega)]
      exact ⟨0x80, 0xBF, by rw [Nat.add_sub_cancel], by omega, by omega⟩

/-- And so it is of four bytes. -/
theorem exists_start_four {v : Nat} (hmin : 0x10000 ≤ v) (hmax : v < 0x110000) :
    ∃ low high, start (UInt8.ofNat (v / 262144 % 8 + 0xF0)) = .more ⟨3, low, high, v / 262144, 1⟩ ∧
      low ≤ v / 4096 % 64 + 0x80 ∧ v / 4096 % 64 + 0x80 ≤ high := by
  have hlead : v / 262144 % 8 + 0xF0 = v / 262144 + 0xF0 := by omega
  rw [start, toNat_ofNat (by omega), hlead]
  rw [if_neg (by omega), if_neg (by omega), if_neg (by omega), if_neg (by omega),
    if_neg (by omega)]
  -- The first bound leaves out what three bytes can hold, the last one what is no character.
  split
  · exact ⟨0x90, 0xBF, by rw [show v / 262144 = 0 by omega], by omega, by omega⟩
  · split
    · exact ⟨0x80, 0xBF, by rw [Nat.add_sub_cancel], by omega, by omega⟩
    · rw [if_pos (by omega)]
      exact ⟨0x80, 0x8F, by rw [show v / 262144 = 4 by omega], by omega, by omega⟩

/-! ## Texts -/

theorem encodeChar_eq (c : Char) : String.utf8EncodeChar c =
    if c.toNat ≤ 0x7F then [UInt8.ofNat c.toNat]
    else if c.toNat ≤ 0x7FF then
      [UInt8.ofNat (c.toNat / 64 % 32 + 0xC0), UInt8.ofNat (c.toNat % 64 + 0x80)]
    else if c.toNat ≤ 0xFFFF then
      [UInt8.ofNat (c.toNat / 4096 % 16 + 0xE0), UInt8.ofNat (c.toNat / 64 % 64 + 0x80),
        UInt8.ofNat (c.toNat % 64 + 0x80)]
    else
      [UInt8.ofNat (c.toNat / 262144 % 8 + 0xF0), UInt8.ofNat (c.toNat / 4096 % 64 + 0x80),
        UInt8.ofNat (c.toNat / 64 % 64 + 0x80), UInt8.ofNat (c.toNat % 64 + 0x80)] := rfl

/-- **The bytes of a character are read as that character.** -/
theorem scanFrom_encodeChar (c : Char) (rest : Bytes) :
    scanFrom none (String.utf8EncodeChar c ++ rest) = .char c :: scanFrom none rest := by
  have hvalid : c.toNat.isValidChar := c.valid
  have hmax := toNat_lt c
  have hback : ∀ {v}, v = c.toNat → Char.ofNat v = c := by
    rintro v rfl
    exact Char.ofNat_toNat c
  rw [encodeChar_eq]
  split
  · rw [List.singleton_append, scanFrom, start_one (by omega)]
    dsimp only
    rw [hback rfl]
  · split
    · rw [List.cons_append, List.singleton_append, scanFrom_start _ (start_two (by omega)),
        scanFrom_lastTail _ _ (by omega) (by omega) (by omega), hback (by omega)]
    · split
      · obtain ⟨low, high, hstart, hlow, hhigh⟩ := exists_start_three (by omega) (by omega) hvalid
        rw [List.cons_append, List.cons_append, List.singleton_append, scanFrom_start _ hstart,
          scanFrom_tail 0 _ _ hlow hhigh (by omega),
          scanFrom_lastTail _ _ (by omega) (by omega) (by omega), hback (by omega)]
      · obtain ⟨low, high, hstart, hlow, hhigh⟩ := exists_start_four (by omega) hmax
        rw [List.cons_append, List.cons_append, List.cons_append, List.singleton_append,
          scanFrom_start _ hstart, scanFrom_tail 1 _ _ hlow hhigh (by omega),
          scanFrom_tail 0 _ _ (by omega) (by omega) (by omega),
          scanFrom_lastTail _ _ (by omega) (by omega) (by omega), hback (by omega)]

theorem scan_flatMap_encodeChar (cs : List Char) :
    scan (cs.flatMap String.utf8EncodeChar) = cs.map .char := by
  induction cs with
  | nil => rfl
  | cons c rest ih =>
    rw [List.flatMap_cons, scan, scanFrom_encodeChar, ← scan, ih, List.map_cons]

/-- **Encoded text is read back.** -/
theorem decode?_encode (s : String) : decode? (encode s) = some s := by
  have hall : (s.toList.map Piece.char).mapM Piece.char? = some s.toList := by
    induction s.toList with
    | nil => rfl
    | cons c rest ih => simp [Piece.char?, ih]
  rw [decode?, encode, scan_flatMap_encodeChar, hall, Option.map_some, String.ofList_toList]

/-! ## Order -/

theorem cons_lt_cons {m n : Nat} (hm : m < 256) (hn : n < 256) (x y : Bytes) :
    UInt8.ofNat m :: x < UInt8.ofNat n :: y ↔ m < n ∨ m = n ∧ x < y := by
  rw [List.cons_lt_cons_iff, UInt8.lt_iff_toNat_lt, ← UInt8.toNat_inj, toNat_ofNat hm,
    toNat_ofNat hn]

/-- **Bytes are ordered as the characters that they encode.** -/
theorem encodeChar_append_lt {c d : Char} (h : c < d) (x y : Bytes) :
    String.utf8EncodeChar c ++ x < String.utf8EncodeChar d ++ y := by
  have hlt : c.toNat < d.toNat := h
  -- Below the leading digit every digit is one to the base 64.
  have hdigits : ∀ n : Nat, n < 0x110000 → n / 262144 % 8 = n / 4096 / 64 ∧
      n / 4096 = n / 64 / 64 ∧ n / 4096 / 64 < 5 := by
    intro n hn
    omega
  have hc := hdigits c.toNat (toNat_lt c)
  have hd := hdigits d.toNat (toNat_lt d)
  rw [encodeChar_eq, encodeChar_eq]
  repeat' split
  all_goals
    simp only [List.cons_append, List.nil_append]
    simp (disch := omega) only [cons_lt_cons]
    omega

theorem encodeChar_ne_nil (c : Char) : String.utf8EncodeChar c ≠ [] := by
  rw [encodeChar_eq]
  repeat' split
  all_goals exact List.cons_ne_nil _ _

theorem flatMap_encodeChar_lt {cs ds : List Char} (h : cs < ds) :
    cs.flatMap String.utf8EncodeChar < ds.flatMap String.utf8EncodeChar := by
  induction h with
  | @nil d ds =>
    rw [List.flatMap_nil, List.flatMap_cons]
    obtain ⟨b, bs, hchar⟩ := List.exists_cons_of_ne_nil (encodeChar_ne_nil d)
    rw [hchar, List.cons_append]
    exact List.nil_lt_cons b _
  | rel h =>
    rw [List.flatMap_cons, List.flatMap_cons]
    exact encodeChar_append_lt h _ _
  | cons _ ih =>
    rw [List.flatMap_cons, List.flatMap_cons]
    exact List.append_left_lt ih

/-- **Texts are ordered as their bytes.** -/
theorem encode_lt {s t : String} (h : s < t) : encode s < encode t :=
  flatMap_encodeChar_lt (String.lt_iff.1 h)

end JsonShell.Utf8
