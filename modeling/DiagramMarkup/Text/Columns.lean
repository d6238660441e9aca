import DiagramMarkup.Text.Tables

/-! # Columns of single characters

The number of columns that a character takes in a terminal where nothing around it matters, and the
classes of characters that change each other's columns.
-/

namespace DiagramMarkup.Text

/-- The joiner, which ties the characters on both sides of it together. -/
def joiner : Char :=
  '\u200D'

/-- The columns that a character takes by itself. -/
def columns (c : Char) : Nat :=
  if c.toNat ≤ 0xA0 then 1
  else if c = '\u17D8' then 3
  else if inRanges zeroWidthRanges c then 0
  else if inRanges wideRanges c then 2
  else 1

/-- Whether a character is an Arabic lam, which joins an alef behind it. -/
def isLam (c : Char) : Bool :=
  inRanges [(0x644, 0x644), (0x6B5, 0x6B8), (0x76A, 0x76A), (0x8A6, 0x8A6), (0x8C7, 0x8C7)] c

/-- Whether a character is an Arabic alef, which joins a lam before it. -/
def isAlef (c : Char) : Bool :=
  inRanges [(0x622, 0x623), (0x625, 0x625), (0x627, 0x627), (0x671, 0x673), (0x675, 0x675),
    (0x773, 0x774), (0x870, 0x882)] c

/-- Whether letters join across a character as if it were not there. -/
def isJoinTransparent (c : Char) : Bool :=
  columns c = 0 && !inRanges unjoiningRanges c

/-- Whether a character is an invisible mark, which leaves the shapes around it as they are. -/
def isInvisibleMark (c : Char) : Bool :=
  inRanges [(0x34F, 0x34F), (0x17B4, 0x17B5), (0x180B, 0x180D), (0x180F, 0x180F),
    (0xFE00, 0xFE0F), (0xE0100, 0xE01EF)] c

/-- Whether a character is a Khmer letter that a coeng sign puts below the letter before it. -/
def isSubjoinable (c : Char) : Bool :=
  inRanges [(0x1780, 0x1782), (0x1784, 0x1787), (0x1789, 0x178C), (0x178E, 0x1793),
    (0x1795, 0x1798), (0x179B, 0x179D), (0x17A0, 0x17A0), (0x17A2, 0x17A2), (0x17A7, 0x17A7),
    (0x17AB, 0x17AC), (0x17AF, 0x17AF)] c

def isTifinaghConsonant (c : Char) : Bool :=
  inRanges [(0x2D31, 0x2D65), (0x2D6F, 0x2D6F)] c

/-- Whether a character is a Lisu tone letter that combines with a low one behind it. -/
def isHighTone (c : Char) : Bool :=
  inRanges [(0xA4F8, 0xA4FB)] c

/-- Whether a character is a Lisu tone letter that combines with a high one before it. -/
def isLowTone (c : Char) : Bool :=
  inRanges [(0xA4FC, 0xA4FD)] c

/-- Whether a character is a quotation mark with both a narrow and a wide form. -/
def isCurlyQuote (c : Char) : Bool :=
  inRanges [(0x2018, 0x2019), (0x201C, 0x201D)] c

/-- Whether a character is one of the letters that make up flags. -/
def isFlagLetter (c : Char) : Bool :=
  inRanges [(0x1F1E6, 0x1F1FF)] c

/-- Whether a character changes the skin tone of an emoji before it. -/
def isSkinTone (c : Char) : Bool :=
  inRanges [(0x1F3FB, 0x1F3FF)] c

/-- Whether a character is an emoji that a skin tone may follow. -/
def takesSkinTone (c : Char) : Bool :=
  inRanges emojiBaseRanges c

/-- Whether a character is an emoji that is drawn as a picture. -/
def isEmoji (c : Char) : Bool :=
  inRanges emojiRanges c

/-- Whether a character may be asked to be drawn as a picture. -/
def hasPictureForm (c : Char) : Bool :=
  inRanges emojiTextRanges c || inRanges emojiPictureRanges c

/-- Whether a character is drawn as a picture and may be asked to be drawn as narrow text instead.
The enclosed ideographs are wide as text too. -/
def hasNarrowForm (c : Char) : Bool :=
  inRanges emojiPictureRanges c && !inRanges [(0x1F200, 0x1F2FF)] c

def isTagLetter (c : Char) : Bool :=
  inRanges [(0xE0061, 0xE007A)] c

def isTagDigit (c : Char) : Bool :=
  inRanges [(0xE0030, 0xE0039)] c

end DiagramMarkup.Text
