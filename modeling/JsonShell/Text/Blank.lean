/-!
# Blank characters

Lines, tokens and options are separated by *blank* characters: those with the Unicode property
`White_Space`.  That is more than the space and the control characters of ASCII (a no-break space or
an ideographic space is blank), and less than everything that prints as nothing (a zero-width space
or a byte order mark is not).

`trim` removes blanks at both ends of a text.  The list versions carry the recursion, so that facts
about them are facts about `List.dropWhile`.
-/

set_option autoImplicit false

namespace JsonShell

/-- The characters with the Unicode property `White_Space`. -/
def isBlank (c : Char) : Bool :=
  let n := c.toNat
  (9 ≤ n && n ≤ 13) || n == 0x20 || n == 0x85 || n == 0xA0 || n == 0x1680
    || (0x2000 ≤ n && n ≤ 0x200A) || n == 0x2028 || n == 0x2029 || n == 0x202F
    || n == 0x205F || n == 0x3000

/-- No visible ASCII character is blank. -/
theorem isBlank_eq_false {c : Char} (hmin : 33 ≤ c.toNat) (hmax : c.toNat ≤ 126) :
    isBlank c = false := by
  simp only [isBlank, Bool.or_eq_false_iff, Bool.and_eq_false_iff, decide_eq_false_iff_not,
    beq_eq_false_iff_ne]
  omega

namespace Text

/-- Removes the characters satisfying `p` from the end. -/
def dropWhileEnd (p : Char → Bool) (cs : List Char) : List Char :=
  (cs.reverse.dropWhile p).reverse

/-- Removes the characters satisfying `p` from both ends. -/
def stripChars (p : Char → Bool) (cs : List Char) : List Char :=
  dropWhileEnd p (cs.dropWhile p)

/-- Removes the blanks at both ends. -/
def trimChars (cs : List Char) : List Char :=
  stripChars isBlank cs

/-- The text without the blanks at both ends. -/
def trim (s : String) : String :=
  String.ofList (trimChars s.toList)

/-- The text without the blanks at its end. -/
def trimEnd (s : String) : String :=
  String.ofList (dropWhileEnd isBlank s.toList)

/-- A text of blanks only, the empty text included. -/
def isAllBlank (s : String) : Bool :=
  s.toList.all isBlank

/-! ## Every ASCII blank of the core library is blank here -/

theorem isBlank_of_isWhitespace {c : Char} (h : c.isWhitespace = true) : isBlank c = true := by
  simp only [Char.isWhitespace, Bool.or_eq_true, decide_eq_true_eq] at h
  rcases h with ((h | h) | h) | h <;> subst h <;> decide

theorem trim_empty : trim "" = "" := rfl

theorem trimChars_toList {s : String} (h : trim s = s) : trimChars s.toList = s.toList := by
  have htoList := congrArg String.toList h
  rwa [trim, String.toList_ofList] at htoList

/-! ## No blank is left at the ends -/

theorem dropWhileEnd_append_takeWhile (p : Char → Bool) (cs : List Char) :
    dropWhileEnd p cs ++ (cs.reverse.takeWhile p).reverse = cs := by
  rw [dropWhileEnd, ← List.reverse_append, List.takeWhile_append_dropWhile, List.reverse_reverse]

theorem not_of_head?_stripChars {p : Char → Bool} {cs : List Char} {c : Char}
    (h : (stripChars p cs).head? = some c) : p c = false := by
  have hall := List.head?_dropWhile_not p cs
  rw [← dropWhileEnd_append_takeWhile p (cs.dropWhile p), ← stripChars, List.head?_append,
    h] at hall
  exact hall

theorem not_of_getLast?_stripChars {p : Char → Bool} {cs : List Char} {c : Char}
    (h : (stripChars p cs).getLast? = some c) : p c = false := by
  have hall := List.head?_dropWhile_not p (cs.dropWhile p).reverse
  rw [stripChars, dropWhileEnd, List.getLast?_reverse] at h
  rw [h] at hall
  exact hall

/-! ## What is between blanks -/

theorem dropWhile_eq_self {p : Char → Bool} {cs : List Char}
    (h : ∀ c, cs.head? = some c → p c = false) : cs.dropWhile p = cs := by
  cases cs with
  | nil => rfl
  | cons c rest => exact List.dropWhile_cons_of_neg (by rw [h c rfl]; exact Bool.false_ne_true)

/-- A text with nothing to remove at its ends is not changed. -/
theorem stripChars_eq_self {p : Char → Bool} {cs : List Char}
    (hhead : ∀ c, cs.head? = some c → p c = false)
    (hlast : ∀ c, cs.getLast? = some c → p c = false) : stripChars p cs = cs := by
  have hend : cs.reverse.dropWhile p = cs.reverse := by
    refine dropWhile_eq_self fun c hc => ?_
    rw [List.head?_reverse] at hc
    exact hlast c hc
  rw [stripChars, dropWhileEnd, dropWhile_eq_self hhead, hend, List.reverse_reverse]

theorem trim_eq_self {s : String} (hhead : ∀ c, s.toList.head? = some c → isBlank c = false)
    (hlast : ∀ c, s.toList.getLast? = some c → isBlank c = false) : trim s = s := by
  rw [trim, trimChars, stripChars_eq_self hhead hlast, String.ofList_toList]

/-- What stands around a text is removed up to the text. -/
theorem stripChars_append {p : Char → Bool} {before cs after : List Char}
    (hbefore : ∀ c ∈ before, p c) (hafter : ∀ c ∈ after, p c) (hne : cs ≠ [])
    (hcs : stripChars p cs = cs) : stripChars p (before ++ cs ++ after) = cs := by
  have hhead : cs.dropWhile p = cs := by
    obtain ⟨c, rest, rfl⟩ := List.exists_cons_of_ne_nil hne
    have hc : p c = false := not_of_head?_stripChars (by rw [hcs]; rfl)
    exact List.dropWhile_cons_of_neg (by rw [hc]; exact Bool.false_ne_true)
  rw [List.append_assoc, stripChars, List.dropWhile_append_of_pos hbefore, List.dropWhile_append,
    hhead, if_neg (by simpa using hne), dropWhileEnd, List.reverse_append,
    List.dropWhile_append_of_pos (fun c hc => hafter c (List.mem_reverse.1 hc))]
  rw [stripChars, hhead] at hcs
  exact hcs

end Text

end JsonShell
