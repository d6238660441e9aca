import DiagramMarkup.Diagram.Activity

/-! # The flow of an activity

The edges of an activity follow from its list of nodes. Control goes on to the next node; where that
is a marker, the branch is over and control goes on at the node that closes the marker's decision or
fork. A decision and a fork also lead into the branches that their markers open.
-/

namespace DiagramMarkup

/-- Why a list of nodes has no flow. -/
inductive FlowFault
  /-- Nothing closes the decision or fork of this name. -/
  | unclosed (opener : String)
  /-- The marker of this name belongs to nothing. -/
  | unbound (marker : String)
  /-- The merge of this name closes a loop that has no decision. -/
  | loopWithoutDecision (merge : String)
deriving Repr, DecidableEq

def FlowFault.message : FlowFault → String
  | unclosed opener => "node " ++ opener ++ " has no closing merge or join"
  | unbound marker => "marker " ++ marker ++ " is not bound to a decision"
  | loopWithoutDecision merge => "loop merge " ++ merge ++ " has no decision"

/-- A way out of a node: the place that it leads to and its label. -/
structure Exit where
  target : Nat
  label : Option String := none
deriving Repr, DecidableEq

namespace ActivityNode

def isClosing (node : ActivityNode) : Bool :=
  node.kind = .merge || node.kind = .join

/-- The label of the branch that a marker opens: its own, or the condition of an else-if. -/
def markerLabel (marker : ActivityNode) : Option String :=
  marker.branchLabel.or
    (if marker.kind = .elseifMarker && marker.label ≠ "" then some marker.label else none)

end ActivityNode

namespace Flow

/-- The places of the nodes that satisfy a test, counted from the given number. -/
def places (test : ActivityNode → Bool) (nodes : List ActivityNode) (start : Nat := 0) :
    List Nat :=
  match nodes with
  | [] => []
  | node :: rest =>
    if test node then start :: places test rest (start + 1) else places test rest (start + 1)

/-- The place of the last node that closes the opener of a name. -/
def closing (nodes : List ActivityNode) (opener : String) : Except FlowFault Nat :=
  match (places (fun n => n.isClosing && n.opener = some opener) nodes).getLast? with
  | some place => .ok place
  | none => .error (.unclosed opener)

/-- The places of the markers that belong to an opener. -/
def markers (nodes : List ActivityNode) (opener : String) : List Nat :=
  places (fun n => n.isMarker && n.opener = some opener) nodes

/-- Where control goes on after a place; nowhere after the last node. -/
def next (nodes : List ActivityNode) (place : Nat) : Except FlowFault (Option Nat) :=
  match nodes[place + 1]? with
  | none => .ok none
  | some node =>
    if node.isMarker then
      match node.opener with
      | none => .error (.unbound node.name)
      | some opener => (closing nodes opener).map some
    else .ok (some (place + 1))

/-- The way out of a node to whatever comes next behind it, if anything does. -/
def onward (nodes : List ActivityNode) (place : Nat) (label : Option String := none) :
    Except FlowFault (List Exit) := do
  let target ← next nodes place
  return target.toList.map fun target => ⟨target, label⟩

/-- The ways into branches, whose markers stand at the given places. -/
def branches (nodes : List ActivityNode) (label : ActivityNode → Option String) :
    List Nat → Except FlowFault (List Exit)
  | [] => .ok []
  | place :: places => do
    let here ← onward nodes place (nodes[place]?.bind label)
    let others ← branches nodes label places
    return here ++ others

/-- All exits of the node at a place, before repeated ones are dropped. -/
def exits (nodes : List ActivityNode) (place : Nat) (node : ActivityNode) :
    Except FlowFault (List Exit) :=
  match node.kind with
  | .stop | .elseMarker | .elseifMarker | .forkAgainMarker => .ok []
  | .start | .action | .join => onward nodes place
  | .merge =>
    if node.looping then
      match (places (fun n => n.name = node.opener.getD "") nodes).head? with
      | some target => .ok [⟨target, none⟩]
      | none => .error (.loopWithoutDecision node.name)
    else onward nodes place
  | .decision =>
    if node.looping then do
      let body ← onward nodes place node.yesBranch
      let merge ← closing nodes node.name
      let out ← onward nodes merge (nodes[merge]?.bind ActivityNode.branchLabel)
      return body ++ out
    else do
      let first ← onward nodes place node.yesBranch
      let others ← branches nodes ActivityNode.markerLabel (markers nodes node.name)
      let hasElse := (markers nodes node.name).any fun m =>
        nodes[m]?.any fun marker => marker.kind = .elseMarker
      if hasElse then return first ++ others
      else
        let merge ← closing nodes node.name
        return first ++ others ++ [⟨merge, none⟩]
  | .fork => do
    let first ← onward nodes place
    let others ← branches nodes (fun _ => none) (markers nodes node.name)
    return first ++ others

/-- Drops an exit that leads where an earlier one leads. -/
def distinct (exits : List Exit) : List Exit :=
  exits.foldl
    (fun kept exit => if kept.any fun k => k.target = exit.target then kept else kept ++ [exit]) []

/-- The edge along a way out of a node. -/
def edge (nodes : List ActivityNode) (source : String) (exit : Exit) : Relation where
  source := source
  target := (nodes[exit.target]?.map ActivityNode.name).getD ""
  kind := .transition
  label := nonempty? exit.label

/-- The edges from the given nodes, the first of which stands at the given place. -/
def edgesFrom (nodes : List ActivityNode) (place : Nat) :
    List ActivityNode → Except FlowFault (List Relation)
  | [] => .ok []
  | node :: rest => do
    let here ← exits nodes place node
    let others ← edgesFrom nodes (place + 1) rest
    return (distinct here).map (edge nodes node.name) ++ others

/-- The edges between the nodes of an activity. Stops have no way out, markers are no ends of edges,
and two places have at most one edge between them, whose label is the first one. -/
def edges (nodes : List ActivityNode) : Except FlowFault (List Relation) :=
  edgesFrom nodes 0 nodes

end Flow

end DiagramMarkup
