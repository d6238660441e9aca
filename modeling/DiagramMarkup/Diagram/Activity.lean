import DiagramMarkup.Diagram.Relation

/-! # Activity diagrams

The nodes of an activity stand in the order in which control reaches them. Markers separate the
branches of a decision or a fork; they are not drawn.
-/

namespace DiagramMarkup

/-- What a node of an activity is. A marker stands for the place where another branch begins, and is
never drawn. -/
inductive ActivityKind
  | start
  | stop
  | action
  | decision
  | merge
  | fork
  | join
  | elseMarker
  | elseifMarker
  | forkAgainMarker
deriving Repr, DecidableEq

namespace ActivityKind

def all : List ActivityKind :=
  [start, stop, action, decision, merge, fork, join, elseMarker, elseifMarker, forkAgainMarker]

def name : ActivityKind → String
  | start => "start"
  | stop => "end"
  | action => "action"
  | decision => "decision"
  | merge => "merge"
  | fork => "fork"
  | join => "join"
  | elseMarker => "else_marker"
  | elseifMarker => "elseif_marker"
  | forkAgainMarker => "fork_again_marker"

/-- Whether a node of a kind only separates branches. -/
def isMarker : ActivityKind → Bool
  | elseMarker | elseifMarker | forkAgainMarker => true
  | _ => false

end ActivityKind

/-- A node of an activity, in the order of the text. -/
structure ActivityNode where
  name : String
  kind : ActivityKind
  label : String
  /-- The text of the branch that a decision takes first. -/
  yesBranch : Option String := none
  /-- The text of the branch that a marker opens, or of the way out of a loop. -/
  branchLabel : Option String := none
  /-- The decision or fork that a marker, a merge or a join belongs to. -/
  opener : Option String := none
  /-- Whether a decision or a merge belongs to a loop. -/
  looping : Bool := false
  lane : Option String := none
  partition : Option String := none
  note : Option String := none
deriving Repr, DecidableEq

/-- Whether a node only separates branches. -/
def ActivityNode.isMarker (node : ActivityNode) : Bool :=
  node.kind.isMarker

/-- A lane, with the first and the last place of its nodes. -/
structure Swimlane where
  name : String
  first : Nat
  last : Nat
deriving Repr, DecidableEq

/-- A group of the nodes from one place up to another, that one not included. -/
structure Partition where
  name : String
  start : Nat
  stop : Nat
  parent : Option String := none
deriving Repr, DecidableEq

/-- An activity: its nodes in the order of the text, the edges between them, and the lanes and
partitions that they stand in. -/
structure ActivityDiagram where
  nodes : List ActivityNode := []
  edges : List Relation := []
  swimlanes : List Swimlane := []
  partitions : List Partition := []
deriving Repr, DecidableEq

namespace ActivityDiagram

/-- The nodes that are drawn. -/
def visibleNodes (d : ActivityDiagram) : List ActivityNode :=
  d.nodes.filter fun node => !node.isMarker

def node? (d : ActivityDiagram) (name : String) : Option ActivityNode :=
  d.nodes.find? fun node => node.name = name

def count (d : ActivityDiagram) (kind : ActivityKind) : Nat :=
  d.nodes.countP fun node => node.kind = kind

end ActivityDiagram

end DiagramMarkup
