import DiagramMarkup.Text.Pattern

/-! # Parts of a declaration

A declaration names an element and may give it a label, a stereotype and a color. The functions here
take one such part off a text and return what remains.
-/

namespace DiagramMarkup.Phrase

open Text Pattern

/-- Two sides with the word between them, the left one as short as possible. -/
def asPattern : Pattern (List Char × List Char) := do
  let left ← fewest1 inLine
  blanks1
  let _ ← text "as"
  blanks1
  let right ← restOfLine
  return (left, right)

/-- Identity and label of a declared element: `"Label" as Id`, `Id as "Label"`, `Label as Id`, and a
single name, quoted or bare, that is both. -/
def nameAndLabel (declaration : List Char) : List Char × List Char :=
  let declaration := trim declaration
  match asPattern.read? declaration with
  | some (left, right) =>
    let left := trim left
    let right := trim right
    if hasStart ['"'] right then (unquote left, unescapeBreaks (unquote right))
    else (unquote right, unescapeBreaks (unquote left))
  | none =>
    let name := unquote declaration
    (name, unescapeBreaks name)

/-- What a text in angle brackets says: the text without the blanks at its ends, or its last blank if
there is nothing else. -/
def stereotypeWords (s : List Char) : List Char :=
  if s.all isBlank then s.getLast?.toList else trim s

/-- The words of a stereotype between its brackets. -/
def stereotypePattern : Pattern (List Char) := do
  let _ ← text "<<"
  let words ← run1 (· ≠ '>')
  let _ ← text ">>"
  return stereotypeWords words

/-- Takes the first stereotype out of a text: the text without it, trimmed, and the stereotype. -/
def takeStereotype (s : List Char) : List Char × Option (List Char) :=
  match stereotypePattern.find? s with
  | some (before, words, after) => (trim (before ++ after), some words)
  | none => (trim s, none)

/-- The characters of a color and of the line style after it. -/
def isColorChar (c : Char) : Bool :=
  isWord c || c = ';' || c = ':' || c = '.' || c = '#'

/-- A colour at the end of a line. -/
def colorPattern : Pattern Unit := do
  blanks1
  char '#'
  let _ ← run1 isColorChar
  blanks
  ended

/-- Removes a colour at the end of a declaration. -/
def stripColor (s : List Char) : List Char :=
  match colorPattern.find? s with
  | some (before, _, _) => trimEnd before
  | none => s

/-- The pieces before and after the first colon outside double quotes; `inside` tells whether the
text starts inside them. -/
def cutLabel : (inside : Bool) → List Char → Option (List Char × List Char)
  | _, [] => none
  | inside, c :: s =>
    if c = '"' then (cutLabel (!inside) s).map fun r => (c :: r.1, r.2)
    else if c = ':' && !inside then some ([], s)
    else (cutLabel inside s).map fun r => (c :: r.1, r.2)

/-- A text that is nothing but blanks is no label. -/
def label? (s : List Char) : Option (List Char) :=
  let s := trim s
  if s.isEmpty then none else some (unescapeBreaks s)

/-- Splits `body : label` at the first colon outside double quotes. -/
def splitLabel (s : List Char) : List Char × Option (List Char) :=
  match cutLabel false s with
  | some (body, label) => (trim body, label? label)
  | none => (trim s, none)

end DiagramMarkup.Phrase
