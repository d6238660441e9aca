import DiagramMarkup.Diagram.Note
import DiagramMarkup.Diagram.Relation
import DiagramMarkup.Diagram.Table

/-! # State diagrams -/

namespace DiagramMarkup

/-- What is declared as a state. -/
inductive StateKind
  | normal
  | initial
  | final
  | fork
  | join
  | choice
  | composite
deriving Repr, DecidableEq

namespace StateKind

def all : List StateKind :=
  [normal, initial, final, fork, join, choice, composite]

def name : StateKind → String
  | normal => "normal"
  | initial => "initial"
  | final => "final"
  | fork => "fork"
  | join => "join"
  | choice => "choice"
  | composite => "composite"

/-- Whether a state of a kind only directs the flow. -/
def isPseudo : StateKind → Bool
  | initial | final | fork | join | choice => true
  | normal | composite => false

end StateKind

/-- A state; `parent` is the composite state that it was first named in. -/
structure StateNode where
  name : String
  label : String
  kind : StateKind
  descriptions : List String := []
  parent : Option String := none
deriving Repr, DecidableEq

/-- States, the transitions between them, and notes. -/
structure StateDiagram where
  states : Table StateNode := .empty
  relations : List Relation := []
  notes : List Note := []
deriving Repr, DecidableEq

end DiagramMarkup
