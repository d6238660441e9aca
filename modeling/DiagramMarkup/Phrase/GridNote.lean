import DiagramMarkup.Diagram.Note
import DiagramMarkup.Phrase.Arrow
import DiagramMarkup.Source.Reading

/-! # Notes in grid diagrams

A note has a text in quotes and an alias, or an alias alone and its text on the lines below, or a
side, perhaps an element that it belongs to, and its text after a colon or on the lines below. A text
on lines of its own ends at a line that says so.
-/

namespace DiagramMarkup.Phrase

open Text Pattern

def endsNote (text : String) : Bool :=
  text = "end note" || text = "endnote"

/-- The first line of a note. -/
inductive NoteOpening
  /-- A text in quotes and an alias. -/
  | inline (text name : List Char)
  /-- An alias; the text follows on its own lines. -/
  | aliased (name : List Char)
  /-- A side with perhaps an element; the text may stand behind a colon. -/
  | attached (target text : Option (List Char))
deriving Repr, DecidableEq

/-- The name that a free note is given. -/
def noteAlias : Pattern (List Char) := do
  blanks1
  let _ ← text "as"
  blanks1
  let name ← run1 isWord
  ended
  return name

/-- The element that a note is attached to. -/
def noteTarget : Pattern (List Char) := do
  blanks1
  let _ ← text "of"
  blanks1
  quotedName <|> run1 isPathChar

/-- The text of a note on the line itself. -/
def inlineText : Pattern (List Char) := do
  char ':'
  blanks
  restOfLine

/-- The first line of a note; the three forms exclude each other. -/
def noteOpening : Pattern NoteOpening := do
  let _ ← text "note"
  let inline : Pattern NoteOpening := do
    blanks1
    let words ← quoted
    let name ← noteAlias
    return .inline words name
  let aliased : Pattern NoteOpening := do
    let name ← noteAlias
    return .aliased name
  let attached : Pattern NoteOpening := do
    blanks1
    let _ ← anyOf ["left", "right", "top", "bottom"]
    let target ← optional noteTarget
    blanks
    let words ← optional inlineText
    ended
    return .attached target words
  inline <|> aliased <|> attached

/-- Reads the note that starts at a line, if one does. `index` is the number of notes before it. -/
def gridNote? (index : Nat) (line : Line) (rest : List Line) : Option (Note × Remaining rest) :=
  let below (name : String) (target : Option String) : Note × Remaining rest :=
    let (body, left) := upTo (fun line => endsNote line.text) rest
    (⟨name, joinTexts body, target⟩, left)
  match noteOpening.read? line.chars with
  | none => none
  | some (.inline words name) =>
    some (⟨String.ofList name, String.ofList (unescapeBreaks words), none⟩, .all rest)
  | some (.aliased name) => some (below (String.ofList name) none)
  | some (.attached target words) =>
    let target := target.map fun t => String.ofList (unquote t)
    match words with
    | some words =>
      some (⟨Note.nameAt index, String.ofList (unescapeBreaks (trim words)), target⟩, .all rest)
    | none => some (below (Note.nameAt index) target)

end DiagramMarkup.Phrase
