import DiagramMarkup.Diagram.Relation
import DiagramMarkup.Diagram.Table

/-! # Mind maps -/

namespace DiagramMarkup

/-- Where a topic stands, seen from the root. -/
inductive Side
  | center
  | right
  | left
deriving Repr, DecidableEq

namespace Side

def all : List Side :=
  [center, right, left]

def name : Side → String
  | center => "center"
  | right => "right"
  | left => "left"

end Side

/-- A topic of a mind map. -/
structure Topic where
  name : String
  label : String
  /-- The depth in the tree; the root has level one. -/
  level : Nat
  side : Side
  parent : Option String := none
  /-- Whether the topic is drawn without a box. -/
  boxless : Bool := false
deriving Repr, DecidableEq

/-- A mind map; its relations lead from every topic to its children. -/
structure MindMap where
  nodes : Table Topic := .empty
  relations : List Relation := []
deriving Repr, DecidableEq

namespace MindMap

/-- The first topic without a parent. -/
def root? (map : MindMap) : Option Topic :=
  map.nodes.values.find? fun topic => topic.parent.isNone

/-- The topics right below a topic. -/
def childrenOf (map : MindMap) (name : String) : List Topic :=
  map.nodes.values.filter fun topic => topic.parent = some name

end MindMap

end DiagramMarkup
