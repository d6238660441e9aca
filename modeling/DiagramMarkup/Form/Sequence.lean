import DiagramMarkup.Diagram.Sequence
import DiagramMarkup.Form.Relation

/-! # The written form of sequence diagrams -/

namespace DiagramMarkup

open Json

def Participant.toJson (p : Participant) : Json :=
  object [("name", string p.name), ("label", string p.label), ("type", string p.kind.name)]

def Participant.ofJson? (j : Json) : Option Participant := do
  guard (j.isRecord 3)
  let name ← j.required 0 "name" string?
  let label ← j.required 1 "label" string?
  let kind ← j.required 2 "type" (alternative? ParticipantKind.all ParticipantKind.name)
  return { name, label, kind }

def Message.fields (m : Message) : List (String × Json) :=
  [("from", string m.source), ("to", string m.target), ("type", string m.kind.name)] ++
    optionalField "label" string m.label

def Message.ofJson? (j : Json) : Option Message := do
  guard (j.isRecord 4)
  let source ← j.required 0 "from" string?
  let target ← j.required 1 "to" string?
  let kind ← j.required 2 "type" (alternative? MessageKind.all MessageKind.name)
  let label ← j.optionalAt 3 "label" string?
  return { source, target, kind, label }

def SequenceNote.fields (n : SequenceNote) : List (String × Json) :=
  [("placement", string n.placement.name), ("participants", array (n.participants.map string)),
    ("text", string n.text)]

def SequenceNote.ofJson? (j : Json) : Option SequenceNote := do
  guard (j.isRecord 3)
  let placement ← j.required 0 "placement" (alternative? Placement.all Placement.name)
  let participants ← j.required 1 "participants" (list? string?)
  let text ← j.required 2 "text" string?
  return { placement, participants, text }

/-- The tag that tells what a step is. -/
inductive StepKind
  | message
  | note
  | divider
deriving Repr, DecidableEq

def StepKind.name : StepKind → String
  | message => "message"
  | note => "note"
  | divider => "divider"

def StepKind.ofJson? : Json → Option StepKind :=
  alternative? [.message, .note, .divider] StepKind.name

/-- A step as a record that starts with its kind. -/
def Step.toJson : Step → Json
  | message m => object (("step", string StepKind.message.name) :: m.fields)
  | note n => object (("step", string StepKind.note.name) :: n.fields)
  | divider label => object [("step", string StepKind.divider.name), ("label", string label)]

def Step.ofJson? (j : Json) : Option Step := do
  let (tag, j) ← j.tagged? "step"
  match ← StepKind.ofJson? tag with
  | .message => (Message.ofJson? j).map message
  | .note => (SequenceNote.ofJson? j).map note
  | .divider => do
    guard (j.isRecord 1)
    let label ← j.required 0 "label" string?
    return divider label

namespace SequenceDiagram

def fields (d : SequenceDiagram) : List (String × Json) :=
  [("participants", ofTable Participant.toJson d.participants),
    ("steps", array (d.steps.map Step.toJson))]

def ofJson? (j : Json) : Option (Option String × SequenceDiagram) := do
  guard (j.isRecord 3)
  let title ← j.optionalAt 0 "title" string?
  let participants ← j.required 1 "participants" (table? Participant.ofJson?)
  let steps ← j.withDefault 2 "steps" (list? Step.ofJson?) []
  return (title, { participants, steps })

end SequenceDiagram

end DiagramMarkup
