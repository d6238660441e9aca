/-! # Relations

The edges of a diagram, each between two named elements.
-/

namespace DiagramMarkup

/-- What a relation means. -/
inductive RelationKind
  | inherits
  | implements
  | composition
  | aggregation
  | association
  | dependency
  | transition
  | message
  | reply
  | containment
  | inclusion
  | extension
  | relationship
  | note
deriving Repr, DecidableEq

namespace RelationKind

def all : List RelationKind :=
  [inherits, implements, composition, aggregation, association, dependency, transition, message,
    reply, containment, inclusion, extension, relationship, note]

def name : RelationKind → String
  | inherits => "extends"
  | implements => "implements"
  | composition => "composition"
  | aggregation => "aggregation"
  | association => "association"
  | dependency => "dependency"
  | transition => "transition"
  | message => "message"
  | reply => "reply"
  | containment => "containment"
  | inclusion => "include"
  | extension => "extend"
  | relationship => "relationship"
  | note => "note"

/-- Whether the line is drawn dashed. -/
def isDashed : RelationKind → Bool
  | implements | dependency | reply | inclusion | extension | note | containment => true
  | _ => false

/-- Whether a relation leads from one end to the other. -/
def isDirected : RelationKind → Bool
  | note | containment => false
  | _ => true

end RelationKind

/-- A relation between two named elements. -/
structure Relation where
  source : String
  target : String
  kind : RelationKind
  label : Option String := none
  /-- The multiplicity beside the source. -/
  sourceLabel : Option String := none
  /-- The multiplicity beside the target. -/
  targetLabel : Option String := none
deriving Repr, DecidableEq

/-- A text that is present and not empty. -/
def nonempty? (text : Option String) : Option String :=
  text.filter fun t => t ≠ ""

end DiagramMarkup
