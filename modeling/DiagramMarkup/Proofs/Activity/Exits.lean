import DiagramMarkup.Proofs.Activity.Places

/-! # Where the nodes of a tree lead

A block is entered at its first node and goes on, at its end, behind the construct that it is a branch
of. The exits of a node are found by its place alone: control goes on to the next node, or from a
marker to the node that closes the construct.
-/

namespace DiagramMarkup

open ActivityDiagram Nesting

/-! ## The flow of a tree -/

/-- The node at which control enters a block; an empty block is left at once. -/
def Block.entry (after : Option String) : Block → Option String
  | .done => after
  | .simple node _ => some node.name
  | .construct _ opener _ _ _ _ => some opener.name

namespace Branches

/-- The nodes at which control enters the branches. -/
def entries (after : Option String) : Branches → List String
  | .done => []
  | .branch _ block rest => (block.entry after).toList ++ rest.entries after

/-- Whether one of the branches is taken where no condition holds. -/
def hasElse : Branches → Bool
  | .done => false
  | .branch marker _ rest => marker.kind = .elseMarker || rest.hasElse

end Branches

/-- The edges from one node to some others. -/
def leads (source : String) (targets : List String) : List (String × String) :=
  targets.map fun target => (source, target)

/-- Where the opener of a construct leads, given its closing node and what follows the construct. A
loop is left from its opener, and a conditional without an else can be passed by. -/
def openerTargets (kind : FrameKind) (first : Block) (others : Branches) (closing : String)
    (next : Option String) : List String :=
  let body := (first.entry (some closing)).toList
  let branches := others.entries (some closing)
  match kind with
  | .loop => body ++ next.toList
  | .fork => body ++ branches
  | .conditional => if others.hasElse then body ++ branches else body ++ branches ++ [closing]

mutual
/-- The edges of a block that is followed by a node, or by nothing. -/
def Block.flow (after : Option String) : Block → List (String × String)
  | .done => []
  | .simple node rest =>
      leads node.name (if node.kind = .stop then [] else (rest.entry after).toList) ++ rest.flow after
  | .construct kind opener first others closing rest =>
      let next := rest.entry after
      leads opener.name (openerTargets kind first others closing.name next) ++
        (first.flow (some closing.name) ++ (others.flow (some closing.name) ++
          (leads closing.name (if kind = .loop then [opener.name] else next.toList) ++
            rest.flow after)))

/-- The edges of branches that go on at a node. -/
def Branches.flow (after : Option String) : Branches → List (String × String)
  | .done => []
  | .branch _ block rest => block.flow after ++ rest.flow after
end

/-- The two ends of a relation. -/
def Relation.ends (r : Relation) : String × String :=
  (r.source, r.target)

/-! ## The exits of a node, by its role -/

namespace Flow

variable {nodes : List ActivityNode} {place : Nat} {node : ActivityNode} {kind : FrameKind}

/-- A node that stands alone goes on, as does one that closes; the rest depends on the construct. -/
theorem exits_eq (nodes : List ActivityNode) (place : Nat) (node : ActivityNode) :
    exits nodes place node =
      match node.role with
      | .alone => if node.kind = .stop then .ok [] else onward nodes place
      | .separates _ => .ok []
      | .closes .loop =>
          match (places (fun n => n.name = node.opener.getD "") nodes).head? with
          | some target => .ok [⟨target, none⟩]
          | none => .error (.loopWithoutDecision node.name)
      | .closes _ => onward nodes place
      | .opens .loop => do
          let body ← onward nodes place node.yesBranch
          let merge ← closing nodes node.name
          let out ← onward nodes merge (nodes[merge]?.bind ActivityNode.branchLabel)
          return body ++ out
      | .opens .conditional => do
          let first ← onward nodes place node.yesBranch
          let others ← branches nodes ActivityNode.markerLabel (markers nodes node.name)
          let hasElse := (markers nodes node.name).any fun m =>
            nodes[m]?.any fun marker => marker.kind = .elseMarker
          if hasElse then return first ++ others
          else
            let merge ← closing nodes node.name
            return first ++ others ++ [⟨merge, none⟩]
      | .opens .fork => do
          let first ← onward nodes place
          let others ← branches nodes (fun _ => none) (markers nodes node.name)
          return first ++ others := by
  unfold exits ActivityNode.role ActivityNode.branching
  cases kind : node.kind with
  | merge => cases node.looping <;> rfl
  | decision => cases node.looping <;> rfl
  | _ => simp

/-! ## Arriving at a place -/

/-- Control that arrives at a place goes on at a node, or ends there. -/
inductive Arrives (nodes : List ActivityNode) (place : Nat) : Option String → Prop where
  | ends : nodes[place]? = none → Arrives nodes place none
  | enters {node : ActivityNode} : nodes[place]? = some node → node.isMarker = false →
      Arrives nodes place (some node.name)
  /-- A marker sends control on to the node that closes its construct. -/
  | leaves {marker node : ActivityNode} {opener : String} {goal : Nat} :
      nodes[place]? = some marker → marker.isMarker = true → marker.opener = some opener →
        closing nodes opener = .ok goal → nodes[goal]? = some node →
          Arrives nodes place (some node.name)

variable {before behind : List ActivityNode} {goal : Option String}

theorem length_past (before part : List ActivityNode) (node : ActivityNode) :
    (before ++ node :: part).length = before.length + 1 + part.length := by
  rw [List.length_append, List.length_cons, Nat.add_right_comm, Nat.add_assoc]

theorem length_past_both (before first others : List ActivityNode) (opener last : ActivityNode) :
    (before ++ opener :: (first ++ (others ++ [last]))).length =
      before.length + 1 + first.length + others.length + 1 := by
  rw [length_past, List.length_append, List.length_append, List.length_singleton]
  omega

theorem getElem?_split (split : nodes = before ++ node :: behind) :
    nodes[before.length]? = some node := by
  simp only [split, Nat.le_refl, List.getElem?_append_right, Nat.sub_self,
    List.getElem?_cons_zero]

theorem arrives_block (after : Option String) {block : Block}
    (split : nodes = before ++ (block.nodes ++ behind)) (fits : block.Fits)
    (behindBlock : Arrives nodes (before.length + block.nodes.length) after) :
    Arrives nodes before.length (block.entry after) := by
  cases block with
  | done => exact behindBlock
  | simple first rest =>
      have at_first : nodes[before.length]? = some first := getElem?_split split
      exact .enters at_first (by rw [first.isMarker_eq, fits.1]; rfl)
  | construct kind opener first others closing rest =>
      have at_opener : nodes[before.length]? = some opener := getElem?_split split
      exact .enters at_opener (by rw [opener.isMarker_eq, fits.1]; rfl)

theorem arrives_branches {others : Branches} {opener : String} {last : ActivityNode}
    (split : nodes = before ++ (others.nodes ++ last :: behind)) (fits : others.Fits kind)
    (bound : others.Bound opener) (closes : last.role = .closes kind)
    (closed : closing nodes opener = .ok (before.length + others.nodes.length)) :
    Arrives nodes before.length (some last.name) := by
  cases others with
  | done =>
      have at_last : nodes[before.length]? = some last := getElem?_split split
      exact .enters at_last (by rw [last.isMarker_eq, closes]; rfl)
  | branch marker block rest =>
      have at_marker : nodes[before.length]? = some marker := getElem?_split split
      have at_last : nodes[before.length + (Branches.branch marker block rest).nodes.length]? =
          some last := by
        rw [← List.append_assoc] at split
        rw [← List.length_append]
        exact getElem?_split split
      exact .leaves at_marker (by rw [marker.isMarker_eq, fits.1]; rfl) bound.1 closed at_last

/-! ## Exits and edges -/

/-- The name of the node at a place. -/
def nameAt (nodes : List ActivityNode) (place : Nat) : String :=
  (nodes[place]?.map ActivityNode.name).getD ""

/-- Exits are found and lead to the nodes of the given names. -/
def ExitsTo (nodes : List ActivityNode) (found : Except FlowFault (List Exit))
    (targets : List String) : Prop :=
  ∃ exits, found = .ok exits ∧ exits.map (fun exit => nameAt nodes exit.target) = targets

theorem exitsTo_onward (arrives : Arrives nodes (place + 1) goal) (label : Option String) :
    ExitsTo nodes (onward nodes place label) goal.toList := by
  cases arrives with
  | ends none =>
      refine ⟨[], ?_, rfl⟩
      simp only [onward, next, none]
      rfl
  | @enters target here enters =>
      refine ⟨[⟨place + 1, label⟩], ?_, ?_⟩
      · simp only [onward, next, here, enters, Bool.false_eq_true, if_false]
        rfl
      · simp only [List.map_cons, List.map_nil, nameAt, here, Option.map_some, Option.getD_some,
          Option.toList_some]
  | @leaves marker target opener goal here marks owner closed there =>
      refine ⟨[⟨goal, label⟩], ?_, ?_⟩
      · simp only [onward, next, here, marks, owner, closed, if_true]
        rfl
      · simp only [List.map_cons, List.map_nil, nameAt, there, Option.map_some, Option.getD_some,
          Option.toList_some]

theorem ExitsTo.append {found others : Except FlowFault (List Exit)} {targets more : List String}
    (first : ExitsTo nodes found targets) (second : ExitsTo nodes others more) :
    ExitsTo nodes (do return (← found) ++ (← others)) (targets ++ more) := by
  obtain ⟨exits, rfl, rfl⟩ := first
  obtain ⟨exits', rfl, rfl⟩ := second
  exact ⟨exits ++ exits', rfl, List.map_append⟩

/-- The exits into the branches lead to where the branches are entered. -/
theorem exitsTo_branches {opener : String} {last : ActivityNode} (label : ActivityNode → Option String)
    (others : Branches) {before : List ActivityNode}
    (split : nodes = before ++ (others.nodes ++ last :: behind)) (fits : others.Fits kind)
    (bound : others.Bound opener) (closes : last.role = .closes kind)
    (closed : closing nodes opener = .ok (before.length + others.nodes.length)) :
    ExitsTo nodes (branches nodes label (others.places before.length))
      (others.entries (some last.name)) := by
  match others with
  | .done => exact ⟨[], rfl, rfl⟩
  | .branch marker block rest =>
      obtain ⟨separates, blockFits, restFits⟩ := fits
      obtain ⟨owner, blockBound, restBound⟩ := bound
      have splitBlock : nodes = (before ++ [marker]) ++ (block.nodes ++ (rest.nodes ++ last :: behind)) := by
        simpa only [Branches.nodes, List.append_assoc, List.cons_append, List.nil_append] using split
      have splitRest : nodes = (before ++ marker :: block.nodes) ++ (rest.nodes ++ last :: behind) := by
        simpa only [Branches.nodes, List.append_assoc, List.cons_append, List.nil_append] using split
      have closedRest : closing nodes opener =
          .ok ((before ++ marker :: block.nodes).length + rest.nodes.length) := by
        rw [closed, length_past, Branches.nodes, List.length_cons, List.length_append]
        congr 1
        omega
      have behindBlock := arrives_branches splitRest restFits restBound closes closedRest
      rw [length_past] at behindBlock
      have entered : Arrives nodes (before.length + 1) (block.entry (some last.name)) := by
        have arrives := arrives_block (some last.name) splitBlock blockFits
        simp only [List.length_append, List.length_cons, List.length_nil, Nat.zero_add] at arrives
        exact arrives behindBlock
      have rest' := exitsTo_branches label rest splitRest restFits restBound closes closedRest
      rw [length_past] at rest'
      exact (exitsTo_onward entered _).append rest'

theorem any_places (others : Branches) {before : List ActivityNode}
    (split : nodes = before ++ (others.nodes ++ behind)) :
    ((others.places before.length).any fun m => nodes[m]?.any fun n => n.kind = .elseMarker) =
      others.hasElse := by
  match others with
  | .done => rfl
  | .branch marker block rest =>
      have at_marker : nodes[before.length]? = some marker := getElem?_split split
      have splitRest : nodes = (before ++ marker :: block.nodes) ++ (rest.nodes ++ behind) := by
        simpa only [Branches.nodes, List.append_assoc, List.cons_append] using split
      have among := any_places rest splitRest
      rw [length_past] at among
      simp only [Branches.places, List.any_cons, at_marker, Option.any_some, among,
        Branches.hasElse]

/-! ## A construct in its place -/

/-- A construct that starts at a place, as the flow finds it: its closing node and markers by the name
of its opener, its opener by name, and where control enters its branches and goes on behind it. -/
structure Stands (nodes : List ActivityNode) (place : Nat) (opener : ActivityNode) (first : Block)
    (others : Branches) (last : ActivityNode) (next : Option String) : Prop where
  named : (places (fun n => n.name = opener.name) nodes).head? = some place
  at_opener : nodes[place]? = some opener
  closed : closing nodes opener.name =
    .ok (place + 1 + first.nodes.length + others.nodes.length)
  at_last : nodes[place + 1 + first.nodes.length + others.nodes.length]? = some last
  enters : Arrives nodes (place + 1) (first.entry (some last.name))
  branches : ∀ label, ExitsTo nodes (branches nodes label (markers nodes opener.name))
    (others.entries (some last.name))
  passable : ((markers nodes opener.name).any fun m =>
    nodes[m]?.any fun n => n.kind = .elseMarker) = others.hasElse
  leaves : Arrives nodes (place + 1 + first.nodes.length + others.nodes.length + 1) next

theorem stands_construct {opener last : ActivityNode} {first rest : Block} {others : Branches}
    (within : Within nodes before (Block.construct kind opener first others last rest).nodes behind)
    (fits : (Block.construct kind opener first others last rest).Fits)
    (bound : (Block.construct kind opener first others last rest).Bound)
    (arrives : Arrives nodes
      (before.length + (Block.construct kind opener first others last rest).nodes.length) after) :
    Stands nodes before.length opener first others last (rest.entry after) := by
  obtain ⟨inFirst, inOthers, inRest⟩ := within.construct_parts fits bound
  have closed := closing_construct within fits bound
  have marked := markers_construct within fits bound
  have toOthers := length_past before first.nodes opener
  have toRest := length_past_both before first.nodes others.nodes opener last
  have closed' : closing nodes opener.name =
      .ok ((before ++ opener :: first.nodes).length + others.nodes.length) := by
    rw [closed, toOthers]
  have named := named_construct within
  obtain ⟨opens, firstFits, othersFit, closes, restFits⟩ := fits
  obtain ⟨firstBound, othersBound, owner, restBound⟩ := bound
  have behindFirst := arrives_branches inOthers.split othersFit othersBound closes closed'
  refine
    { named := named, at_opener := getElem?_split within.split, closed := closed, at_last := ?at_last,
      enters := ?enters, branches := fun label => ?branches, passable := ?passable,
      leaves := ?leaves }
  case at_last =>
    have split := inOthers.split
    rw [← List.append_assoc] at split
    have at_last := getElem?_split split
    rwa [List.length_append, toOthers] at at_last
  case enters =>
    have enters := arrives_block (some last.name) inFirst.split firstFits
    simp only [List.length_append, List.length_cons, List.length_nil, Nat.zero_add] at enters
    exact enters (toOthers ▸ behindFirst)
  case branches =>
    rw [marked, ← toOthers]
    exact exitsTo_branches label others inOthers.split othersFit othersBound closes closed'
  case passable =>
    rw [marked, ← toOthers]
    exact any_places others inOthers.split
  case leaves =>
    have leaves := arrives_block after inRest.split restFits
    rw [toRest] at leaves
    apply leaves
    simp only [Block.nodes, List.length_cons, List.length_append] at arrives
    convert arrives using 1
    omega

variable {opener last : ActivityNode} {first : Block} {others : Branches} {onwards : Option String}

theorem Stands.exitsTo_opener (stands : Stands nodes place opener first others last onwards)
    (role : opener.role = .opens kind) :
    ExitsTo nodes (exits nodes place opener)
      (openerTargets kind first others last.name onwards) := by
  have into (label : Option String) := exitsTo_onward stands.enters label
  cases kind with
  | loop =>
      rw [exits_eq, role, stands.closed]
      exact (into _).append (exitsTo_onward stands.leaves _)
  | fork =>
      rw [exits_eq, role]
      exact (into _).append (stands.branches _)
  | conditional =>
      rw [exits_eq, role, stands.closed]
      simp only [stands.passable, openerTargets]
      cases others.hasElse with
      | true => exact (into _).append (stands.branches _)
      | false =>
          have merge : ExitsTo nodes
              (.ok [⟨place + 1 + first.nodes.length + others.nodes.length, none⟩]) [last.name] := by
            refine ⟨_, rfl, ?_⟩
            simp only [List.map_cons, List.map_nil, nameAt, stands.at_last, Option.map_some,
              Option.getD_some]
          have all := ((into opener.yesBranch).append
            (stands.branches ActivityNode.markerLabel)).append merge
          obtain ⟨exits, found, targets⟩ := all
          refine ⟨exits, ?_, targets⟩
          rw [← found]
          simp only [bind_assoc, pure_bind]
          rfl

theorem Stands.exitsTo_last (stands : Stands nodes place opener first others last onwards)
    (role : last.role = .closes kind) (owner : last.opener = some opener.name) :
    ExitsTo nodes (exits nodes (place + 1 + first.nodes.length + others.nodes.length) last)
      (if kind = .loop then [opener.name] else onwards.toList) := by
  rw [exits_eq, role]
  cases kind with
  | loop =>
      simp only [owner, Option.getD_some, stands.named]
      refine ⟨[⟨place, none⟩], rfl, ?_⟩
      simp only [List.map_cons, List.map_nil, nameAt, stands.at_opener, Option.map_some,
        Option.getD_some, if_true]
  | fork | conditional => exact exitsTo_onward stands.leaves none

end Flow

end DiagramMarkup
