import DiagramMarkup.Diagram.Relation
import DiagramMarkup.Diagram.Table

/-! # Sequence diagrams -/

namespace DiagramMarkup

/-- What takes part in a sequence. -/
inductive ParticipantKind
  | participant
  | actor
  | boundary
  | control
  | entity
  | database
  | collections
  | queue
deriving Repr, DecidableEq

namespace ParticipantKind

def all : List ParticipantKind :=
  [participant, actor, boundary, control, entity, database, collections, queue]

def name : ParticipantKind → String
  | participant => "participant"
  | actor => "actor"
  | boundary => "boundary"
  | control => "control"
  | entity => "entity"
  | database => "database"
  | collections => "collections"
  | queue => "queue"

def ofName? (word : String) : Option ParticipantKind :=
  all.find? fun kind => kind.name = word

end ParticipantKind

/-- A participant of a sequence. -/
structure Participant where
  name : String
  label : String
  kind : ParticipantKind
deriving Repr, DecidableEq

/-- A participant that is labelled with its name. -/
def Participant.bare (name : String) (kind : ParticipantKind) : Participant :=
  { name, label := name, kind }

/-- How a message is sent. -/
inductive MessageKind
  /-- The sender waits. -/
  | sync
  /-- The sender goes on. -/
  | async
  /-- The answer to an earlier message. -/
  | reply
deriving Repr, DecidableEq

namespace MessageKind

def all : List MessageKind :=
  [sync, async, reply]

def name : MessageKind → String
  | sync => "sync"
  | async => "async"
  | reply => "reply"

end MessageKind

/-- A message from one participant to another. -/
structure Message where
  source : String
  target : String
  kind : MessageKind
  label : Option String := none
deriving Repr, DecidableEq

namespace Message

/-- Whether a participant writes to itself. -/
def isSelf (message : Message) : Bool :=
  message.source = message.target

/-- A message as a relation between its participants. -/
def toRelation (message : Message) : Relation where
  source := message.source
  target := message.target
  kind := if message.kind = .reply then .reply else .message
  label := nonempty? message.label

end Message

/-- Where a note stands, seen from its participants. -/
inductive Placement
  | left
  | right
  | above
deriving Repr, DecidableEq

namespace Placement

def all : List Placement :=
  [left, right, above]

def name : Placement → String
  | left => "left"
  | right => "right"
  | above => "over"

end Placement

/-- A note in the conversation, beside one participant or over one or two. -/
structure SequenceNote where
  placement : Placement
  participants : List String
  text : String
deriving Repr, DecidableEq

/-- A step of a sequence; every step has a row of its own. -/
inductive Step
  | message (message : Message)
  | note (note : SequenceNote)
  | divider (label : String)
deriving Repr, DecidableEq

/-- A sequence diagram; its steps follow each other in time. -/
structure SequenceDiagram where
  participants : Table Participant := .empty
  steps : List Step := []
deriving Repr, DecidableEq

def SequenceDiagram.messages (d : SequenceDiagram) : List Message :=
  d.steps.filterMap fun
    | .message message => some message
    | _ => none

end DiagramMarkup
