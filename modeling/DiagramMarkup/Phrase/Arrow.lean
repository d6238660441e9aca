import DiagramMarkup.Phrase.Declaration

/-! # Arrows

A relation line holds two endpoints and, between them, an arrow: a head at either end, a solid or
dotted line, a multiplicity in quotes beside either endpoint, and a label after a colon.
-/

namespace DiagramMarkup.Phrase

open Text Pattern

/-- The mark at one end of an arrow. -/
inductive Head
  /-- No mark. -/
  | bare
  /-- A closed triangle, as for inheritance. -/
  | triangle
  /-- A filled diamond. -/
  | diamond
  /-- A hollow diamond. -/
  | hollow
  /-- An open arrow head. -/
  | pointer
  /-- A plus sign. -/
  | plus
deriving Repr, DecidableEq

/-- How a head is written at the left end of an arrow. -/
def Head.leftText : Head → String
  | bare => ""
  | triangle => "<|"
  | diamond => "*"
  | hollow => "o"
  | pointer => "<"
  | plus => "+"

/-- How a head is written at the right end of an arrow. -/
def Head.rightText : Head → String
  | bare => ""
  | triangle => "|>"
  | diamond => "*"
  | hollow => "o"
  | pointer => ">"
  | plus => "+"

/-- A relation line taken apart. The endpoints are as written; each kind of diagram resolves them in
its own way. -/
structure Arrow where
  left : List Char
  right : List Char
  leftHead : Head
  rightHead : Head
  dotted : Bool
  leftCount : Option (List Char)
  rightCount : Option (List Char)
  label : Option (List Char)
deriving Repr, DecidableEq

def Arrow.hasHeads (arrow : Arrow) : Bool :=
  arrow.leftHead ≠ .bare || arrow.rightHead ≠ .bare

def isNameChar (c : Char) : Bool :=
  isWord c || c = '$'

/-- The characters of a name in which dots may stand. -/
def isPathChar (c : Char) : Bool :=
  isWord c || c = '.'

/-- Bare names with dots between them, and perhaps the mark of a pseudo state at the end. -/
def dottedName : Pattern (List Char) := do
  let first ← run1 isNameChar
  let more ← repeated do
    char '.'
    let name ← run1 isNameChar
    return '.' :: name
  let mark ← optional (text "[*]")
  return first ++ more.flatten ++ (mark.getD "").toList

/-- A bare name that no dot or character of a name follows. -/
def wholeName : Pattern (List Char) := do
  let name ← run1 fun c => isNameChar c || c = '.'
  guard ((splitAt '.' name).all fun part => !part.isEmpty)
  let mark ← optional (text "[*]")
  return name ++ (mark.getD "").toList

/-- An endpoint: a name in quotes, parentheses, colons or square brackets, or a bare name. -/
def endpoint (bare : Pattern (List Char)) : Pattern (List Char) :=
  quotedName <|> enclosed '(' ')' <|> enclosed ':' ':' <|> enclosed '[' ']' <|> bare

/-- The heads, in the order in which they are tried, as one end of the arrow writes them. -/
def headPattern (write : Head → String) : Pattern Head :=
  let head (h : Head) : Pattern Head := do
    let _ ← text (write h)
    return h
  head .triangle <|> head .diamond <|> head .hollow <|> head .pointer <|> head .plus <|>
    pure .bare

def isStroke (c : Char) : Bool :=
  c = '-' || c = '.'

/-- The directions that may interrupt a line, in the order in which they are tried. -/
def directions : List String :=
  ["left", "right", "up", "down", "le", "ri", "do", "l", "r", "u", "d"]

/-- A style in square brackets, which has no effect. -/
def bracketedStyle : Pattern Unit := do
  char '['
  let _ ← run (· ≠ ']')
  char ']'

/-- The line of an arrow, perhaps interrupted once by a style or a direction; tells whether it is
dotted, which its first character decides. -/
def stroke : Pattern Bool := do
  let start ← run1 isStroke
  let _ ← optional do
    bracketedStyle <|> discard (anyOf directions)
    run1 isStroke
  return hasStart ['.'] start

/-- A multiplicity in quotes, with blanks behind it. -/
def multiplicity : Pattern (List Char) := do
  let words ← quoted
  blanks
  return words

/-- A label after a colon, up to the end of the text. -/
def arrowLabel : Pattern (List Char) := do
  blanks
  char ':'
  blanks
  restOfLine

/-- A whole relation line. Behind the left endpoint a dot may begin the arrow, while nothing that goes
on with a name may stand behind the right one. -/
def arrowPattern : Pattern Arrow := do
  let left ← endpoint dottedName
  blanks
  let leftCount ← optional multiplicity
  let leftHead ← headPattern Head.leftText
  let dotted ← stroke
  let rightHead ← headPattern Head.rightText
  blanks
  let rightCount ← optional multiplicity
  let right ← endpoint wholeName
  let label ← optional arrowLabel
  ended
  return {
    left, right, leftHead, rightHead, dotted, leftCount, rightCount
    label := label.bind label? }

/-- The arrow that a line consists of, if it is one. -/
def arrow? (s : List Char) : Option Arrow :=
  arrowPattern.read? s

end DiagramMarkup.Phrase
