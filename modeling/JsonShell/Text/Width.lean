import JsonShell.Text.Width.Table

/-!
# The columns a text takes on a terminal

A character alone takes two columns if it is wide, none if it combines with its neighbours, three
if it is the Khmer sign beyyal, and one otherwise (`charWidth?`; a control character has no width of
its own).  In a text some characters act together.

* A carriage return and a newline take one column, as every control character does.
* Emoji joined by zero-width joiners are one emoji.  So are an emoji and a skin tone, two regional
  indicators, a keycap, and a black flag with tags, and each of these can be joined to others.
* A variation selector makes the character before it an emoji or a text, if that has both styles, or
  makes a quotation mark wide.
* Some letters are drawn as one: lam and alef in Arabic, alef and lamed around a joiner in Hebrew,
  and others in Buginese, Kirat Rai, Lisu, Old Turkic and Tifinagh.  A Khmer letter that is written
  below another one takes no column.

`stringWidth` therefore reads a text from its end: what a character takes depends on what follows
it, which is all that a `Following` says.  A character that joins one already counted takes a column
back.
-/

set_option autoImplicit false

namespace JsonShell

namespace Width

/-! ## Classes of characters -/

/-- Characters that take no column. -/
def isZero (c : Char) : Bool := inRanges c.toNat zeroRanges

/-- Characters that take two columns. -/
def isDouble (c : Char) : Bool := inRanges c.toNat doubleRanges

/-- Characters that are emoji by default. -/
def isEmoji (c : Char) : Bool := inRanges c.toNat emojiRanges

/-- Characters that are emoji before the emoji variation selector. -/
def hasEmojiStyle (c : Char) : Bool :=
  inRanges c.toNat textStyleRanges || inRanges c.toNat emojiStyleRanges

/-- The squared ideographs, which stay wide also as text. -/
def isEnclosedIdeograph (c : Char) : Bool := 0x1F200 ≤ c.toNat && c.toNat ≤ 0x1F2FF

/-- Emoji that are text of one column before the text variation selector. -/
def hasTextStyle (c : Char) : Bool :=
  inRanges c.toNat emojiStyleRanges && !isEnclosedIdeograph c

/-- Emoji that a skin tone applies to. -/
def isModifierBase (c : Char) : Bool := inRanges c.toNat modifierBaseRanges

/-- The five skin tones. -/
def isSkinTone (c : Char) : Bool := 0x1F3FB ≤ c.toNat && c.toNat ≤ 0x1F3FF

/-- The regional indicators, of which two make a flag. -/
def isRegional (c : Char) : Bool := 0x1F1E6 ≤ c.toNat && c.toNat ≤ 0x1F1FF

/-- The tags that stand for the letters from `a` to `z`. -/
def isTagLetter (c : Char) : Bool := 0xE0061 ≤ c.toNat && c.toNat ≤ 0xE007A

/-- The tags that stand for the digits. -/
def isTagDigit (c : Char) : Bool := 0xE0030 ≤ c.toNat && c.toNat ≤ 0xE0039

/-- The control characters: U+0000 to U+001F and U+007F to U+009F. -/
def isControl (c : Char) : Bool :=
  c.toNat < 0x20 || (0x7F ≤ c.toNat && c.toNat ≤ 0x9F)

/-- The zero-width joiner. -/
def isJoiner (c : Char) : Bool := c.toNat == 0x200D

/-- The single and double quotation marks that can be wide. -/
def isQuotationMark (c : Char) : Bool := [0x2018, 0x2019, 0x201C, 0x201D].contains c.toNat

/-- Marks that are never drawn and do not part letters. -/
def isFiller (c : Char) : Bool :=
  inRanges c.toNat [(0x34F, 0x34F), (0x17B4, 0x17B5), (0x180B, 0x180D), (0x180F, 0x180F),
    (0xFE00, 0xFE0F), (0xE0100, 0xE01EF)]

/-- Characters without a column that Arabic letters join across. -/
def isTransparent (c : Char) : Bool := isZero c && !inRanges c.toNat opaqueRanges

/-- The forms of the Arabic letter alef. -/
def isAlef (c : Char) : Bool :=
  [0x622, 0x623, 0x625, 0x627, 0x671, 0x672, 0x673, 0x675, 0x773, 0x774].contains c.toNat
    || (0x870 ≤ c.toNat && c.toNat ≤ 0x882)

/-- The forms of the Arabic letter lam. -/
def isLam (c : Char) : Bool :=
  [0x644, 0x6B5, 0x6B6, 0x6B7, 0x6B8, 0x76A, 0x8A6, 0x8C7].contains c.toNat

/-- The Khmer letters that do not stick out when they are written below another one. -/
def isKhmerSubscript (c : Char) : Bool :=
  inRanges c.toNat [(0x1780, 0x1782), (0x1784, 0x1784), (0x1787, 0x1787), (0x1789, 0x178C),
    (0x178E, 0x1793), (0x1795, 0x1798), (0x179B, 0x179D), (0x17A0, 0x17A0), (0x17A2, 0x17A2),
    (0x17A7, 0x17A7), (0x17AB, 0x17AC), (0x17AF, 0x17AF)]

/-- The Tifinagh consonants. -/
def isTifinaghConsonant (c : Char) : Bool :=
  (0x2D31 ≤ c.toNat && c.toNat ≤ 0x2D65) || c.toNat == 0x2D6F

/-! ## What follows a character -/

/-- How a text starts, as far as it matters to the character before it.  Where letters are drawn as
one across a joiner, `joined` tells that a joiner has been read. -/
inductive Opening where
  | other
  | newline
  /-- An emoji. -/
  | emoji
  | skinTone
  /-- A regional indicator; `several` tells whether another one follows. -/
  | regional (several : Bool)
  /-- A joiner and an emoji. -/
  | joined
  /-- A keycap that is joined to an emoji. -/
  | joinedKeycap
  /-- Regional indicators that are joined to an emoji, the first of which is not part of a pair. -/
  | joinedRegional (first : Bool)
  /-- Pairs of regional indicators that are joined to an emoji. -/
  | joinedFlag
  /-- The last `n` letters of tags that are joined to an emoji. -/
  | joinedTagLetters (n : Nat)
  /-- The last `n` digits of tags that are joined to an emoji, and what comes after them. -/
  | joinedTagDigits (n : Nat)
  | arabicAlef
  | hebrewLamed (joined : Bool)
  | khmerSubscript
  | bugineseYa (joined : Bool)
  /-- A Buginese vowel sign before a joined ya. -/
  | bugineseSignYa
  | tifinaghConsonant (joined : Bool)
  /-- A Tifinagh consonant joiner and a consonant. -/
  | tifinaghPair
  /-- A second letter of a Lisu tone. -/
  | lisuTone
  | orkhonI (joined : Bool)
  | kiratSignE
  | kiratSignAi
deriving DecidableEq, Repr

/-- A variation selector. -/
inductive Selector where
  | emoji
  | text
  | wide
deriving DecidableEq, Repr

/-- What follows a character. -/
structure Following where
  opening : Opening
  /-- The selector between the character and the rest. -/
  selector : Option Selector
deriving DecidableEq, Repr

/-- Letters that are drawn as one across a selector. -/
def Opening.isLigature : Opening → Bool
  | .arabicAlef | .hebrewLamed _ | .khmerSubscript | .bugineseYa _ | .bugineseSignYa
  | .tifinaghConsonant _ | .tifinaghPair | .lisuTone | .orkhonI _ => true
  | _ => false

/-- What an emoji variation selector joins to an emoji. -/
def Opening.isJoined : Opening → Bool
  | .joined | .joinedKeycap => true
  | _ => false

/-- What follows the character before a selector. -/
def Opening.after (o : Opening) (s : Selector) : Following :=
  if o.isLigature || (s = .emoji && o.isJoined) then ⟨o, some s⟩ else ⟨.other, some s⟩

/-- What is left of what follows if the selector does not apply. -/
def Opening.withoutSelector (o : Opening) : Opening :=
  if o.isLigature then o else .other

/-! ## Steps -/

/-- The columns of a character by itself, from the tables. -/
def tableWidth (c : Char) : Nat :=
  if c.toNat = 0x17D8 then 3 else if isZero c then 0 else if isDouble c then 2 else 1

/-- How a text starts with a character that nothing after it acts on. -/
def openingOf (c : Char) : Opening :=
  if c = '\n' then .newline
  else if isSkinTone c then .skinTone
  else if isEmoji c then .emoji
  else if isRegional c then .regional false
  else if isAlef c then .arabicAlef
  else if isKhmerSubscript c then .khmerSubscript
  else if isTifinaghConsonant c then .tifinaghConsonant false
  else match c.toNat with
    | 0x5DC => .hebrewLamed false
    | 0x1A10 => .bugineseYa false
    | 0xA4FC | 0xA4FD => .lisuTone
    | 0x10C03 => .orkhonI false
    | 0x16D67 => .kiratSignE
    | 0x16D68 => .kiratSignAi
    | _ => .other

/-- The columns of a character that nothing after it acts on, and how a text starts with it. -/
def plainStep (c : Char) : Int × Opening :=
  (tableWidth c, openingOf c)

/-- The step of a character before tags that are joined to an emoji. -/
def tagStep? (c : Char) (letters digits : Nat) (closed : Bool) : Option (Int × Opening) :=
  if closed && isTagLetter c && letters < 6 then some (0, .joinedTagLetters (letters + 1))
  else if isTagDigit c && digits < 3 && (digits > 0 || letters < 5) then
    some (0, .joinedTagDigits (digits + 1))
  else if c.toNat = 0x1F3F4 && (digits = 3 || (digits = 0 && 3 ≤ letters)) then some (0, .emoji)
  else none

/-- The step of a character before a joiner and an emoji. -/
def joinedStep? (c : Char) : Option (Int × Opening) :=
  if c.toNat = 0x20E3 then some (0, .joinedKeycap)
  else if isRegional c then some (1, .joinedRegional true)
  else if isSkinTone c then some (0, .skinTone)
  else if c.toNat = 0xE007F then some (0, .joinedTagLetters 0)
  else if isEmoji c then some (0, .emoji)
  else none

/-- The columns that `c` adds before an opening that acts on it, and how the text starts with it. -/
def actedStep? (c : Char) : Opening → Option (Int × Opening)
  | .other | .newline => none
  | .emoji => if isJoiner c then some (0, .joined) else none
  | .skinTone =>
    if isModifierBase c then some (0, .emoji)
    else if isJoiner c then some (0, .joined)
    else none
  | .regional several =>
    if isRegional c then some (1, .regional true)
    else if several && isJoiner c then some (0, .joined)
    else none
  | .joined => joinedStep? c
  | .joinedKeycap => none
  | .joinedRegional first =>
    if isRegional c then some (-1, .joinedFlag)
    else if !first && isJoiner c then some (0, .joined)
    else none
  | .joinedFlag =>
    if isRegional c then some (3, .joinedRegional false)
    else if isJoiner c then some (0, .joined)
    else none
  | .joinedTagLetters n => tagStep? c n 0 true
  | .joinedTagDigits n => tagStep? c 0 n false
  | .arabicAlef =>
    if isLam c then some (0, .other) else if isTransparent c then some (0, .arabicAlef) else none
  | .hebrewLamed joined =>
    if isJoiner c then some (0, .hebrewLamed true)
    else if isFiller c then some (0, .hebrewLamed joined)
    else if joined && c.toNat = 0x5D0 then some (0, .other)
    else none
  | .khmerSubscript =>
    if isJoiner c || isFiller c then some (0, .khmerSubscript)
    else if c.toNat = 0x17D2 then some (-1, .other)
    else none
  | .bugineseYa joined =>
    if isJoiner c then some (0, .bugineseYa true)
    else if isFiller c then some (0, .bugineseYa joined)
    else if joined && c.toNat = 0x1A17 then some (0, .bugineseSignYa)
    else none
  | .bugineseSignYa =>
    if isJoiner c || isFiller c then some (0, .bugineseSignYa)
    else if c.toNat = 0x1A15 then some (0, .other)
    else none
  | .tifinaghConsonant joined =>
    if isJoiner c then some (0, .tifinaghConsonant true)
    else if isFiller c then some (0, .tifinaghConsonant joined)
    else if c.toNat = 0x2D7F then some (1, .tifinaghPair)
    else if joined && isTifinaghConsonant c then some (0, .other)
    else none
  | .tifinaghPair =>
    if isJoiner c || isFiller c then some (0, .tifinaghPair)
    else if isTifinaghConsonant c then some (-1, .other)
    else none
  | .lisuTone =>
    if isJoiner c || isFiller c then some (0, .lisuTone)
    else if 0xA4F8 ≤ c.toNat && c.toNat ≤ 0xA4FB then some (0, .other)
    else none
  | .orkhonI joined =>
    if isJoiner c then some (0, .orkhonI true)
    else if isFiller c then some (0, .orkhonI joined)
    else if joined && c.toNat = 0x10C32 then some (0, .other)
    else none
  | .kiratSignE =>
    match c.toNat with
    | 0x16D63 | 0x16D69 => some (0, .other)
    | 0x16D67 => some (0, .kiratSignAi)
    | 0x16D68 => some (1, .kiratSignE)
    | _ => none
  | .kiratSignAi => if c.toNat = 0x16D63 then some (0, .other) else none

/-- The columns that `c` adds before an opening, and what it is for the character before it. -/
def openingStep (c : Char) (next : Opening) : Int × Following :=
  if c.toNat ≤ 0xA0 then
    if c = '\n' then (1, ⟨.newline, none⟩)
    else if c = '\r' && next = .newline then (0, ⟨.other, none⟩)
    else (1, ⟨.other, none⟩)
  else
    match c.toNat with
    | 0xFE0F => (0, next.after .emoji)
    | 0xFE0E => (0, next.after .text)
    | 0xFE01 => (0, next.after .wide)
    | _ =>
      let (width, opening) := (actedStep? c next).getD (plainStep c)
      (width, ⟨opening, none⟩)

/-- The columns that `c` adds before what follows, and what it is for the character before it. -/
def step (c : Char) (next : Following) : Int × Following :=
  match next.selector with
  | some .emoji =>
    if hasEmojiStyle c then (if next.opening = .joined ∨ next.opening = .joinedKeycap then 0 else 2,
      ⟨.emoji, none⟩)
    else openingStep c next.opening.withoutSelector
  | some .text =>
    if hasTextStyle c then (1, ⟨.other, none⟩) else openingStep c next.opening.withoutSelector
  | some .wide =>
    if isQuotationMark c then (2, ⟨.other, none⟩) else openingStep c next.opening.withoutSelector
  | none => openingStep c next.opening

/-- The columns of a text and what it is for a character before it. -/
def measure : List Char → Int × Following
  | [] => (0, ⟨.other, none⟩)
  | c :: rest =>
    let after := measure rest
    let here := step c after.2
    (here.1 + after.1, here.2)

end Width

/-- The columns of one character; a control character has no width of its own. -/
def charWidth? (c : Char) : Option Nat :=
  if Width.isControl c then none else some (Width.tableWidth c)

/-- The columns that a text takes. -/
def charsWidth (cs : List Char) : Nat :=
  (Width.measure cs).1.toNat

/-- The columns that a text takes. -/
def stringWidth (s : String) : Nat :=
  charsWidth s.toList

/-! ## Pinned widths -/

example : stringWidth "名前" = 4 ∧ stringWidth "ｱ" = 1 ∧ stringWidth "Ａ" = 2 := by decide +kernel
example : stringWidth "a\tb" = 3 ∧ stringWidth "a\x0d\nb" = 3 := by decide +kernel
example : stringWidth "e\u0301" = 1 ∧ stringWidth "\u200b" = 0 := by decide +kernel
example : stringWidth "x\u05c8y" = 2 ∧ stringWidth "x\u05c9y" = 2 := by decide +kernel
example : stringWidth "x\u1ade" = 1 ∧ stringWidth "x\u1af0" = 1 := by decide +kernel
example : stringWidth "❤" = 1 ∧ stringWidth "❤\ufe0f" = 2 := by decide +kernel
example : stringWidth "👨\u200d👩\u200d👧" = 2 ∧ stringWidth "🇯🇵" = 2 := by decide +kernel
example : stringWidth "👍🏽" = 2 ∧ stringWidth "👍\ufe0e" = 1 := by decide +kernel
example : stringWidth "ﾊﾞ" = 2 ∧ stringWidth "\u17d8" = 3 := by decide +kernel
example : stringWidth "\u0644\u0627" = 1 ∧ stringWidth "\u0644\u200c\u0627" = 2 := by decide +kernel
example : stringWidth "\u1780\u17d2\u1781" = 1 ∧ stringWidth "\u17d2\u1783" = 1 := by decide +kernel

end JsonShell
