import DiagramMarkup.Diagram.Sequence
import DiagramMarkup.Phrase.GridNote

/-! # Reading sequence diagrams -/

namespace DiagramMarkup.SequenceDiagram

open Text Pattern Phrase

def ensure (d : SequenceDiagram) (name : String) : SequenceDiagram :=
  { d with participants := d.participants.insertNew name (.bare name .participant) }

def addStep (d : SequenceDiagram) (step : Step) : SequenceDiagram :=
  { d with steps := d.steps ++ [step] }

/-- The start of a declaration: its kind and what is declared. -/
def declarationPattern : Pattern (ParticipantKind × List Char) := do
  let word ← anyOf (ParticipantKind.all.map ParticipantKind.name)
  blanks1
  let rest ← restOfLine
  if rest.isEmpty then failure
  else return ((ParticipantKind.ofName? word).getD .participant, rest)

/-- The place of a participant in the order of columns, which has no effect. -/
def orderPattern : Pattern Unit := do
  blanks1
  let _ ← text "order"
  blanks1
  let _ ← optional (char '-')
  let _ ← run1 isDigit

/-- Removes the first place in the order of columns from a text. -/
def dropOrder (s : List Char) : List Char :=
  match orderPattern.find? s with
  | some (before, _, after) => before ++ after
  | none => s

/-- Declares a participant, which may be known already. -/
def declare (d : SequenceDiagram) (kind : ParticipantKind) (declaration : List Char) :
    SequenceDiagram :=
  let (s, _) := takeStereotype declaration
  let (name, label) := nameAndLabel (stripColor (dropOrder s))
  let name := String.ofList name
  let participants := d.participants.insertNew name (.bare name kind)
  { d with participants := participants.modify name fun participant =>
      { participant with kind, label := String.ofList label } }

/-- The label of a divider. A divider starts and ends with at least two equals signs each. -/
def divider? (s : List Char) : Option (List Char) :=
  let isStroke (c : Char) : Bool := c = '='
  let inner := s.dropWhile isStroke
  if inner.isEmpty then if s.length ≥ 4 then some [] else none
  else if hasStart ['=', '='] s && hasEnd ['=', '='] s then some (trim (dropEnd isStroke inner))
  else none

/-- A participant where a message or a note names it. -/
def participantName : Pattern (List Char) :=
  quotedName <|> run1 fun c => isNameChar c || c = '.'

/-- A style in square brackets, as written. -/
def style : Pattern (List Char) := do
  char '['
  let inner ← run (· ≠ ']')
  char ']'
  return '[' :: inner ++ [']']

/-- One character, as written. -/
def sign (c : Char) : Pattern (List Char) := do
  char c
  return [c]

/-- A part that may be missing, as written. -/
def maybe (p : Pattern (List Char)) : Pattern (List Char) :=
  p <|> pure []

/-- An arrow that points to the left, as written. -/
def leftArrow : Pattern (List Char) := do
  let head ← sign '<'
  let double ← maybe (sign '<')
  let first ← sign '-'
  let inner ← maybe style
  let second ← maybe (sign '-')
  return head ++ double ++ first ++ inner ++ second

/-- An arrow that points to the right, as written. -/
def rightArrow : Pattern (List Char) := do
  let first ← sign '-'
  let inner ← maybe style
  let second ← maybe (sign '-')
  let head ← sign '>'
  let double ← maybe (sign '>')
  return first ++ inner ++ second ++ head ++ double

def messagePattern : Pattern (List Char × List Char × List Char) := do
  let left ← participantName
  blanks
  let arrow ← leftArrow <|> rightArrow
  blanks
  let right ← participantName
  ended
  return (left, arrow, right)

/-- How an arrow sends: two dashes answer, a double head does not wait. -/
def kindOfArrow (arrow : List Char) : MessageKind :=
  if count '-' arrow ≥ 2 then .reply
  else if contains ['>', '>'] arrow || contains ['<', '<'] arrow then .async
  else .sync

/-- The message that a line states, if it states one. A head at the left end turns it round. -/
def message? (s : List Char) : Option Message :=
  let (body, label) := splitLabel s
  (messagePattern.read? body).map fun (left, arrow, right) =>
    let a := String.ofList (unquote left)
    let b := String.ofList (unquote right)
    let toLeft := hasStart ['<'] arrow
    { source := if toLeft then b else a
      target := if toLeft then a else b
      kind := kindOfArrow arrow
      label := label.map String.ofList }

/-- The start of a note: its side, its participants and perhaps its text. -/
def notePattern : Pattern (Placement × List (List Char) × Option (List Char)) := do
  let _ ← optional (one fun c => c = 'h' || c = 'r')
  let _ ← text "note"
  blanks1
  let beside : Pattern (Placement × List (List Char)) := do
    let side ← anyOf ["left", "right"]
    let name ← optional do
      blanks1
      let _ ← text "of"
      blanks1
      participantName
    return (if side = "left" then .left else .right, name.toList)
  let above : Pattern (Placement × List (List Char)) := do
    let _ ← text "over"
    blanks1
    let first ← participantName
    let second ← optional do
      blanks
      char ','
      blanks
      participantName
    return (.above, first :: second.toList)
  let (placement, names) ← beside <|> above
  blanks
  let words ← optional inlineText
  ended
  return (placement, names, words)

def endsAnyNote (text : String) : Bool :=
  endsNote text || text ∈ ["endrnote", "endhnote", "end rnote", "end hnote"]

/-- The participant of the last message that a note on a side belongs to. -/
def lastSpeaker? (d : SequenceDiagram) (placement : Placement) : Option String :=
  d.messages.getLast?.map fun message =>
    if placement = .left then message.source else message.target

/-- The participants of a note: those that it names, or else the one who spoke last. -/
def noteParticipants (d : SequenceDiagram) (placement : Placement) (names : List (List Char)) :
    List String :=
  match names with
  | [] => (d.lastSpeaker? placement).toList
  | _ => names.map fun name => String.ofList (unquote name)

/-- Reads the note that starts at a line, if one does, into the diagram with it. -/
def note? (d : SequenceDiagram) (line : Line) (rest : List Line) :
    Option (SequenceDiagram × Remaining rest) :=
  match notePattern.read? line.chars with
  | none => none
  | some (placement, names, words) =>
    let participants := d.noteParticipants placement names
    if participants.isEmpty then none
    else
      let (text, left) : String × Remaining rest :=
        match words with
        | some words => (String.ofList (unescapeBreaks (trim words)), .all rest)
        | none =>
          let (body, left) := upTo (fun line => endsAnyNote line.text) rest
          (joinTexts body, left)
      let d := participants.foldl ensure d
      some (d.addStep (.note { placement, participants, text }), left)

/-- Reads a line: a participant, a divider, a note or a message. -/
def turn (d : SequenceDiagram) (line : Line) (rest : List Line) : Turn SequenceDiagram rest :=
  let s := line.chars
  match declarationPattern.read? s with
  | some (kind, declaration) => .took1 (d.declare kind declaration)
  | none =>
    match divider? s with
    | some label => .took1 (d.addStep (.divider (String.ofList label)))
    | none =>
      match d.note? line rest with
      | some (d, left) => .took d left
      | none =>
        match message? s with
        | some message =>
          .took1 (((d.ensure message.source).ensure message.target).addStep (.message message))
        | none => .skip d "unrecognized sequence diagram line"

def ofLines (lines : List Line) : SequenceDiagram × List Diagnostic :=
  readAll turn {} lines

end DiagramMarkup.SequenceDiagram
