import DiagramMarkup.Text.Columns

/-! # Width in columns

The number of columns that a text takes in a terminal. Most characters take one or two columns or
none; an emoji that is built from several characters takes two as a whole, and in some scripts
letters form one sign with each other. What a character adds depends on what stands behind it, so a
text is measured from its end.
-/

namespace DiagramMarkup.Text

/-- What a letter may form one sign with. `joined` tells that a joiner stands before it. -/
inductive Partner where
  /-- An alef, behind a lam. -/
  | alef
  /-- A lamed, behind an alef of the Hebrew script and a joiner. -/
  | lamed (joined : Bool)
  /-- A Buginese ya, behind the vowel sign i and a joiner. -/
  | ya (joined : Bool)
  /-- A vowel sign i, a joiner and a Buginese ya, behind the letter a. -/
  | joinedYa
  /-- A Tifinagh consonant, behind another one and a joiner. -/
  | consonant (joined : Bool)
  /-- A Tifinagh consonant with the consonant joiner before it, behind another consonant. -/
  | linkedConsonant
  /-- A low tone letter, behind a high one. -/
  | lowTone
  /-- An Old Turkic i, behind an ng and a joiner. -/
  | orkhonI (joined : Bool)
  /-- A Khmer letter, behind a coeng sign. -/
  | subjoinable
deriving Repr, DecidableEq

namespace Partner

/-- The partner with a joiner before it. -/
def join : Partner → Partner
  | lamed _ => lamed true
  | ya _ => ya true
  | consonant _ => consonant true
  | orkhonI _ => orkhonI true
  | p => p

/-- What a character on its own can be the partner of. -/
def ofChar? (c : Char) : Option Partner :=
  if isAlef c then some alef
  else if c = '\u05DC' then some (lamed false)
  else if c = '\u1A10' then some (ya false)
  else if isTifinaghConsonant c then some (consonant false)
  else if isLowTone c then some lowTone
  else if c = Char.ofNat 0x10C03 then some (orkhonI false)
  else if isSubjoinable c then some subjoinable
  else none

end Partner

/-- What matters of the text behind a character. -/
inductive Behind where
  /-- Nothing that changes a width. -/
  | plain
  /-- The end of a line. -/
  | lineEnd
  /-- A letter that forms one sign with letters before it. -/
  | partner (p : Partner)
  /-- The Kirat Rai vowel sign e. -/
  | vowelE
  /-- The Kirat Rai vowel sign ai. -/
  | vowelAi
  /-- A skin tone. -/
  | skinTone
  /-- A letter of a flag, or several of them. -/
  | flagLetters (several : Bool)
  /-- An emoji. -/
  | emoji
  /-- A joiner and then an emoji, which swallow the emoji before them. -/
  | joined
  /-- The sign for a key before a joiner and an emoji. -/
  | joinedKeycap
  /-- Letters of flags before a joiner and an emoji, one letter or an even or odd number. -/
  | joinedFlagLetter
  | joinedFlagEven
  | joinedFlagOdd
  /-- The end of a tag before a joiner and an emoji; some digits stand before some letters in it. -/
  | joinedTag (digits letters : Nat)
deriving Repr, DecidableEq

namespace Behind

/-- Whether a picture asked for before this is swallowed. -/
def swallowsPicture : Behind → Bool
  | joined | joinedKeycap => true
  | _ => false

/-- What a character on its own means for the one before it. -/
def ofChar (c : Char) : Behind :=
  match Partner.ofChar? c with
  | some p => partner p
  | none =>
    if c = '\n' then lineEnd
    else if c = Char.ofNat 0x16D67 then vowelE
    else if c = Char.ofNat 0x16D68 then vowelAi
    else if isFlagLetter c then flagLetters false
    else if isSkinTone c then skinTone
    else if isEmoji c then emoji
    else plain

end Behind

/-- A form that a variation selector asks of the character before it. -/
inductive Form where
  | picture
  | text
  | wide
deriving Repr, DecidableEq

def Form.ofChar? (c : Char) : Option Form :=
  if c = '\uFE0F' then some .picture
  else if c = '\uFE0E' then some .text
  else if c = '\uFE01' then some .wide
  else none

/-- What stands behind a character, with the form that it is asked to take. -/
structure Sequel where
  behind : Behind
  asked : Option Form
deriving Repr, DecidableEq

namespace Sequel

/-- Nothing is asked of the character before. -/
def unasked (behind : Behind) : Sequel :=
  ⟨behind, none⟩

/-- What stands behind once a character does not take the form asked of it. Letters form signs
across a variation selector, while anything else ends at it. -/
def settled (s : Sequel) : Behind :=
  match s.behind, s.asked with
  | .partner p, _ => .partner p
  | behind, none => behind
  | _, some _ => .plain

/-- What stands behind a variation selector. -/
def ask (form : Form) (behind : Behind) : Sequel :=
  match behind with
  | .partner p => ⟨.partner p, some form⟩
  | behind => ⟨if form = .picture ∧ behind.swallowsPicture then behind else .plain, some form⟩

/-- The columns that a character adds when it takes the form asked of it. -/
def taken? (c : Char) (s : Sequel) : Option (Int × Behind) := do
  match ← s.asked with
  | .picture =>
    if hasPictureForm c then some (if s.behind.swallowsPicture then 0 else 2, .emoji) else none
  | .text => if hasNarrowForm c then some (1, .plain) else none
  | .wide => if isCurlyQuote c then some (2, .plain) else none

end Sequel

/-- The columns that a character adds before a letter with which it forms one sign. Where the sign is
narrower than what was counted of it so far, they are less than zero. -/
def Partner.takes? (c : Char) (p : Partner) : Option (Int × Behind) :=
  match p with
  | .alef =>
    if isLam c then some (0, .plain)
    else if isJoinTransparent c then some (0, .partner .alef)
    else none
  | p =>
    if c = joiner then some (0, .partner p.join)
    else if isInvisibleMark c then some (0, .partner p)
    else
      match p with
      | .lamed true => if c = '\u05D0' then some (0, .plain) else none
      | .subjoinable => if c = '\u17D2' then some (-1, .plain) else none
      | .ya true => if c = '\u1A17' then some (0, .partner .joinedYa) else none
      | .joinedYa => if c = '\u1A15' then some (0, .plain) else none
      | .consonant joined =>
        if c = '\u2D7F' then some (1, .partner .linkedConsonant)
        else if joined && isTifinaghConsonant c then some (0, .plain)
        else none
      | .linkedConsonant => if isTifinaghConsonant c then some (-1, .plain) else none
      | .lowTone => if isHighTone c then some (0, .plain) else none
      | .orkhonI true => if c = Char.ofNat 0x10C32 then some (0, .plain) else none
      | _ => none

/-- The columns that a character adds before a joiner and an emoji, or before a part of a longer emoji
there. -/
def Behind.swallows? (c : Char) (behind : Behind) : Option (Int × Behind) :=
  match behind with
  | .joined =>
    if c = '\u20E3' then some (0, .joinedKeycap)
    else if isFlagLetter c then some (1, .joinedFlagLetter)
    else if isSkinTone c then some (0, .skinTone)
    else if c = Char.ofNat 0xE007F then some (0, .joinedTag 0 0)
    else if isEmoji c then some (0, .emoji)
    else none
  | .joinedFlagLetter => if isFlagLetter c then some (-1, .joinedFlagEven) else none
  | .joinedFlagOdd =>
    if isFlagLetter c then some (-1, .joinedFlagEven)
    else if c = joiner then some (0, .joined)
    else none
  | .joinedFlagEven =>
    if isFlagLetter c then some (3, .joinedFlagOdd)
    else if c = joiner then some (0, .joined)
    else none
  | .joinedTag digits letters =>
    if isTagLetter c && digits = 0 && letters < 6 then some (0, .joinedTag 0 (letters + 1))
    else if isTagDigit c && digits < 3 && letters ≤ 4 then some (0, .joinedTag (digits + 1) letters)
    else if c = Char.ofNat 0x1F3F4 && (digits = 3 || digits = 0 && 3 ≤ letters) then
      some (0, .emoji)
    else none
  | _ => none

/-- The columns that a character adds where what stands behind it changes them, and what the longer
text means in turn. -/
def Behind.changes? (c : Char) (behind : Behind) : Option (Int × Behind) :=
  match behind with
  | .lineEnd => if c = '\r' then some (0, .plain) else none
  | .partner p => p.takes? c
  | .vowelE =>
    if c = Char.ofNat 0x16D63 || c = Char.ofNat 0x16D69 then some (0, .plain)
    else if c = Char.ofNat 0x16D67 then some (0, .vowelAi)
    else if c = Char.ofNat 0x16D68 then some (1, .vowelE)
    else none
  | .vowelAi => if c = Char.ofNat 0x16D63 then some (0, .plain) else none
  | .skinTone =>
    if takesSkinTone c then some (0, .emoji)
    else if c = joiner then some (0, .joined)
    else none
  | .flagLetters several =>
    if isFlagLetter c then some (1, .flagLetters true)
    else if several && c = joiner then some (0, .joined)
    else none
  | .emoji => if c = joiner then some (0, .joined) else none
  | behind => behind.swallows? c

/-- The columns that a character adds before a text, and what the longer text means in turn. -/
def widthStep (c : Char) (s : Sequel) : Int × Sequel :=
  match s.taken? c with
  | some (added, behind) => (added, .unasked behind)
  | none =>
    match Form.ofChar? c with
    | some form => (0, .ask form s.settled)
    | none =>
      let (added, behind) := (s.settled.changes? c).getD (columns c, .ofChar c)
      (added, .unasked behind)

/-- The columns that a text takes on a terminal. -/
def width (s : List Char) : Nat :=
  let (total, _) := s.foldr
    (fun c (total, sequel) =>
      let (added, sequel) := widthStep c sequel
      (total + added, sequel))
    ((0 : Int), Sequel.unasked .plain)
  total.toNat

end DiagramMarkup.Text
