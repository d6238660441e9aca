import DiagramMarkup.Diagram.MindMap
import DiagramMarkup.Source.Reading
import DiagramMarkup.Text.Pattern

/-! # Reading mind maps

Every topic starts with marks whose number is its level. Its parent is the nearest topic above it
with a smaller level.
-/

namespace DiagramMarkup.MindMap

open Text Pattern

/-- A topic on the way from the root to the topic that was read last. -/
structure Ancestor where
  level : Nat
  name : String
  side : Side
deriving Repr, DecidableEq

/-- What has been read of a mind map. -/
structure Draft where
  map : MindMap := {}
  /-- The topics from the last one up to the root. -/
  ancestors : List Ancestor := []
  /-- How many children of the root were given a side by turns. -/
  balanced : Nat := 0
deriving Repr, DecidableEq

/-- What a topic line says about the topic. -/
structure Entry where
  mark : Char
  level : Nat
  boxless : Bool
  text : List Char
deriving Repr, DecidableEq

/-- The marks of a topic, all of them alike, and its text. -/
def entryPattern : Pattern Entry := do
  let marks ← run1 (· = '*') <|> run1 (· = '+') <|> run1 (· = '-')
  let boxless ← optional (char '_')
  blanks
  let _ ← optional do
    let _ ← text "[#"
    let _ ← run (· ≠ ']')
    char ']'
  blanks
  let words ← restOfLine
  return {
    mark := marks.head?.getD '*'
    level := marks.length
    boxless := boxless.isSome
    text := trim words }

/-- The text of a topic. Behind a colon it may go on over several lines, up to a semicolon at the end
of a line. -/
def topicText (text : List Char) (rest : List Line) : List Char × Remaining rest :=
  match after? [':'] text with
  | none => (text, .all rest)
  | some first =>
    let withoutEnd (s : List Char) : List Char := (before? [';'] s).getD s
    if hasEnd [';'] first then (withoutEnd first, .all rest)
    else
      let (lines, left) := through (fun line => hasEnd [';'] line.chars) rest
      (withoutEnd (join ['\n'] (first :: lines.map Line.chars)), left)

namespace Draft

/-- Goes back to the ancestors of a topic of the given level. -/
def backTo (draft : Draft) (level : Nat) : Draft :=
  { draft with ancestors := draft.ancestors.dropWhile fun a => a.level ≥ level }

/-- The side of a topic, and whether it was given by turns. -/
def sideOf (draft : Draft) (mark : Char) : Side × Bool :=
  match draft.ancestors.head? with
  | none => (.center, false)
  | some parent =>
    if mark = '+' then (.right, false)
    else if mark = '-' then (.left, false)
    else if parent.side = .center then (if draft.balanced % 2 = 0 then .right else .left, true)
    else (parent.side, false)

/-- Enters a topic below the innermost ancestor. -/
def enter (draft : Draft) (entry : Entry) (label : List Char) : Draft :=
  let name := s!"n{draft.map.nodes.size}"
  let parent := draft.ancestors.head?.map Ancestor.name
  let (side, byTurn) := draft.sideOf entry.mark
  let topic : Topic := {
    name
    label := String.ofList label
    level := entry.level
    side
    parent
    boxless := entry.boxless }
  let containment :=
    parent.toList.map fun p => { source := p, target := name, kind := .containment : Relation }
  { map := {
      nodes := draft.map.nodes.insertNew name topic
      relations := draft.map.relations ++ containment }
    ancestors := ⟨entry.level, name, side⟩ :: draft.ancestors
    balanced := if byTurn then draft.balanced + 1 else draft.balanced }

end Draft

/-- One turn of reading a mind map. A second root is refused. -/
def turn (draft : Draft) (line : Line) (rest : List Line) : Turn Draft rest :=
  match entryPattern.read? line.chars with
  | none => .skip draft "unrecognized mind map line"
  | some entry =>
    let (label, left) := topicText entry.text rest
    if label.isEmpty then .skipped draft "mind map node without text" left
    else
      let draft := draft.backTo entry.level
      if draft.ancestors.isEmpty && draft.map.root?.isSome then
        .skipped draft "second mind map root" left
      else .took (draft.enter entry label) left

def ofLines (lines : List Line) : MindMap × List Diagnostic :=
  let (draft, diagnostics) := readAll turn {} lines
  (draft.map, diagnostics)

end DiagramMarkup.MindMap
