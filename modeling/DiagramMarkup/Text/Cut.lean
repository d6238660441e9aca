/-! # Blanks and the cutting of texts

The characters that separate words and their removal at the ends of a text; where a text starts or
ends with another, where it contains one, and how it is cut there. A text is handled as its list of
characters. Each function returns the pieces themselves, so that no position has to be kept.
-/

namespace DiagramMarkup.Text

/-- The characters with the `White_Space` property. -/
def isBlank (c : Char) : Bool :=
  let n := c.toNat
  (0x9 ≤ n && n ≤ 0xD) || n == 0x20 || n == 0x85 || n == 0xA0 || n == 0x1680 ||
    (0x2000 ≤ n && n ≤ 0x200A) || n == 0x2028 || n == 0x2029 || n == 0x202F || n == 0x205F ||
    n == 0x3000

def dropStart (drops : Char → Bool) (s : List Char) : List Char :=
  s.dropWhile drops

def dropEnd (drops : Char → Bool) (s : List Char) : List Char :=
  (s.reverse.dropWhile drops).reverse

def trimStart (s : List Char) : List Char :=
  dropStart isBlank s

def trimEnd (s : List Char) : List Char :=
  dropEnd isBlank s

/-- A text without the blanks at both of its ends. -/
def trim (s : List Char) : List Char :=
  trimEnd (trimStart s)

def startsBlank : List Char → Bool
  | [] => false
  | c :: _ => isBlank c

/-- What follows a given beginning, if the text has that beginning. -/
def after? : List Char → List Char → Option (List Char)
  | [], s => some s
  | _ :: _, [] => none
  | p :: ps, c :: s => if p = c then after? ps s else none

/-- What stands before a given ending, if the text has that ending. -/
def before? (ending s : List Char) : Option (List Char) :=
  (after? ending.reverse s.reverse).map List.reverse

def hasStart (start s : List Char) : Bool :=
  (after? start s).isSome

def hasEnd (ending s : List Char) : Bool :=
  (before? ending s).isSome

/-- The pieces before and after the first place where a text stands. -/
def cut (mark : List Char) : List Char → Option (List Char × List Char)
  | [] => (after? mark []).map fun rest => ([], rest)
  | c :: s =>
    match after? mark (c :: s) with
    | some rest => some ([], rest)
    | none => (cut mark s).map fun r => (c :: r.1, r.2)

def contains (mark s : List Char) : Bool :=
  (cut mark s).isSome

/-- The pieces before and after the first character that satisfies a test, without it. -/
def cutAt (stops : Char → Bool) : List Char → Option (List Char × List Char)
  | [] => none
  | c :: s => if stops c then some ([], s) else (cutAt stops s).map fun r => (c :: r.1, r.2)

/-- The pieces before and after the last place of a character, without it. -/
def cutLast (c : Char) : List Char → Option (List Char × List Char)
  | [] => none
  | d :: s =>
    match cutLast c s with
    | some r => some (d :: r.1, r.2)
    | none => if d = c then some ([], s) else none

/-- The pieces between the places of a character: always one more than there are places. -/
def splitAt (c : Char) : List Char → List (List Char)
  | [] => [[]]
  | d :: s =>
    if d = c then [] :: splitAt c s
    else
      match splitAt c s with
      | [] => [[d]]
      | piece :: pieces => (d :: piece) :: pieces

/-- The pieces with a separator between each two of them. -/
def join (separator : List Char) : List (List Char) → List Char
  | [] => []
  | [piece] => piece
  | piece :: pieces => piece ++ separator ++ join separator pieces

/-- Reads `skip` characters without looking at them, then replaces every place of a text, from left
to right and without overlap. -/
def replaceFrom (mark new : List Char) : Nat → List Char → List Char
  | _, [] => []
  | skip + 1, _ :: s => replaceFrom mark new skip s
  | 0, c :: s =>
    if hasStart mark (c :: s) then new ++ replaceFrom mark new (mark.length - 1) s
    else c :: replaceFrom mark new 0 s

/-- Replaces every place of a text, from left to right and without overlap. -/
def replace (mark new s : List Char) : List Char :=
  replaceFrom mark new 0 s

def count (c : Char) (s : List Char) : Nat :=
  s.countP (· = c)

/-- An ASCII capital becomes the small letter; every other character stays. -/
def lower (s : List Char) : List Char :=
  s.map Char.toLower

/-- An ASCII small letter becomes the capital; every other character stays. -/
def upper (s : List Char) : List Char :=
  s.map Char.toUpper

/-- Removes blanks at the ends and then one pair of surrounding double quotes. -/
def unquote (s : List Char) : List Char :=
  let s := trim s
  match s with
  | '"' :: rest => (before? ['"'] rest).getD s
  | _ => s

/-- Turns every written `\n`, a backslash and the letter, into a line break. -/
def unescapeBreaks (s : List Char) : List Char :=
  replace ['\\', 'n'] ['\n'] s

end DiagramMarkup.Text
