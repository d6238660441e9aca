import DiagramMarkup.Proofs.Activity.Effects
import DiagramMarkup.Proofs.Activity.WellNested
import DiagramMarkup.Proofs.References.Closed
import DiagramMarkup.Proofs.Skipping.Readers
import Mathlib.Data.List.Flatten

/-! # Lanes, partitions and notes are only context

Lanes, partitions and notes tell where the nodes of an activity are drawn and what is noted beside
them. Control does not depend on them: where their lines are left out, an activity has the same nodes
in the same order, and the same edges.
-/

namespace DiagramMarkup

open ActivityDiagram

/-! ## The flow -/

namespace Flow

theorem places_core (test : ActivityNode → Bool) (same : ∀ node, test node.core = test node)
    (nodes : List ActivityNode) (start : Nat) :
    places test (nodes.map ActivityNode.core) start = places test nodes start := by
  induction nodes generalizing start with
  | nil => rfl
  | cons node nodes ih => simp only [List.map_cons, places, same, ih]

theorem closing_core (nodes : List ActivityNode) (opener : String) :
    closing (nodes.map ActivityNode.core) opener = closing nodes opener := by
  rw [closing, closing, places_core _ fun _ => rfl]

theorem markers_core (nodes : List ActivityNode) (opener : String) :
    markers (nodes.map ActivityNode.core) opener = markers nodes opener :=
  places_core _ (fun _ => rfl) nodes 0

theorem getElem?_core (label : ActivityNode → Option String)
    (same : ∀ node, label node.core = label node) (nodes : List ActivityNode) (place : Nat) :
    (nodes.map ActivityNode.core)[place]?.bind label = nodes[place]?.bind label := by
  rw [List.getElem?_map]
  cases nodes[place]? with
  | none => rfl
  | some node => exact same node

theorem next_core (nodes : List ActivityNode) (place : Nat) :
    next (nodes.map ActivityNode.core) place = next nodes place := by
  unfold next
  rw [List.getElem?_map]
  cases nodes[place + 1]? with
  | none => rfl
  | some node =>
      simp only [Option.map_some, closing_core]
      rfl

theorem onward_core (nodes : List ActivityNode) (place : Nat) (label : Option String) :
    onward (nodes.map ActivityNode.core) place label = onward nodes place label := by
  rw [onward, onward, next_core]

theorem branches_core (label : ActivityNode → Option String)
    (same : ∀ node, label node.core = label node) (nodes : List ActivityNode) (places : List Nat) :
    branches (nodes.map ActivityNode.core) label places = branches nodes label places := by
  induction places with
  | nil => rfl
  | cons place places ih => simp only [branches, onward_core, getElem?_core label same, ih]

theorem exits_core (nodes : List ActivityNode) (place : Nat) (node : ActivityNode) :
    exits (nodes.map ActivityNode.core) place node.core = exits nodes place node := by
  unfold exits
  cases kind : node.kind with
  | start | action | join => simp only [ActivityNode.core, kind, onward_core]
  | stop | elseMarker | elseifMarker | forkAgainMarker => simp only [ActivityNode.core, kind]
  | merge =>
      have named (name : String) := places_core (fun n => n.name = name) (fun _ => rfl) nodes 0
      simp only [named, onward_core]
      simp only [ActivityNode.core, kind]
  | decision =>
      have out := getElem?_core ActivityNode.branchLabel (fun _ => rfl) nodes
      have others := branches_core ActivityNode.markerLabel (fun _ => rfl) nodes
      have isElse (place : Nat) :
          ((nodes.map ActivityNode.core)[place]?.any fun marker => marker.kind = .elseMarker) =
            nodes[place]?.any fun marker => marker.kind = .elseMarker := by
        rw [List.getElem?_map]
        cases nodes[place]? <;> rfl
      simp only [onward_core, markers_core, closing_core, ActivityNode.core_name, out, others, isElse]
      simp only [ActivityNode.core, kind]
  | fork =>
      have others := branches_core (fun _ => none) (fun _ => rfl) nodes
      simp only [onward_core, markers_core, ActivityNode.core_name, others]
      simp only [ActivityNode.core, kind]

theorem edge_core (nodes : List ActivityNode) (source : String) :
    edge (nodes.map ActivityNode.core) source = edge nodes source := by
  funext exit
  unfold edge
  rw [List.getElem?_map, Option.map_map]
  rfl

theorem edges_core (nodes : List ActivityNode) :
    edges (nodes.map ActivityNode.core) = edges nodes := by
  have from_core (part : List ActivityNode) (place : Nat) :
      edgesFrom (nodes.map ActivityNode.core) place (part.map ActivityNode.core) =
        edgesFrom nodes place part := by
    induction part generalizing place with
    | nil => rfl
    | cons node part ih =>
        simp only [List.map_cons, edgesFrom, exits_core, ih, edge_core, ActivityNode.core_name]
  exact from_core nodes 0

end Flow

namespace ActivityDiagram

/-! ## The lines of a construct -/

/-- What is left of some lines without those of lanes, partitions and notes. -/
def controlLines (lines : List Line) : List Line :=
  ((constructs lines).filter fun construct => !construct.statement.isContext).flatMap Construct.lines

theorem controlLines_sublist (lines : List Line) : (controlLines lines).Sublist lines := by
  have kept := List.Sublist.flatMap (List.filter_sublist (p := fun construct : Construct =>
    !construct.statement.isContext) (l := constructs lines)) Construct.lines
  rwa [flatMap_constructs] at kept

theorem controlLines_cons (line : Line) (rest : List Line) :
    controlLines (line :: rest) =
      if (Statement.ofLine line).isContext then controlLines ((Statement.ofLine line).left rest).1
      else
        line :: (Remaining.taken ((Statement.ofLine line).left rest) ++
          controlLines ((Statement.ofLine line).left rest).1) := by
  unfold controlLines
  rw [constructs_cons]
  cases context : (Statement.ofLine line).isContext with
  | true => simp only [List.filter_cons, context, Bool.not_true, Bool.false_eq_true, if_true, if_false]
  | false =>
      simp only [List.filter_cons, context, Bool.not_false, Bool.false_eq_true, if_true, if_false,
        List.flatMap_cons, List.cons_append]

/-- The activity without what it tells about lanes, partitions and notes. -/
def core (d : ActivityDiagram) : ActivityDiagram where
  nodes := d.nodes.map ActivityNode.core
  edges := d.edges

namespace Draft

variable {draft next : Draft} {node : ActivityNode}

/-- The draft without what it tells about lanes, partitions and notes. -/
def core (draft : Draft) : Draft where
  nodes := draft.nodes.map ActivityNode.core
  frames := draft.frames

theorem core_nextName (draft : Draft) : draft.core.nextName = draft.nextName := by
  simp only [nextName, core, List.length_map]

theorem core_push (draft : Draft) (bare : node.core = node) :
    (draft.push node).core = draft.core.push node := by
  have unnoted : node.note = none := by rw [← bare]; rfl
  have added : { node with
      name := draft.nextName, lane := none, partition := none, note := none } =
        { node with name := draft.core.nextName, lane := none, partition := none } := by
    rw [core_nextName, unnoted]
  simp only [core, push, List.map_append, List.map_cons, List.map_nil, ActivityNode.core, added,
    partition?, List.head?_nil, Option.bind_none, Option.map_none, changeFirst]

theorem core_pushClosing (draft : Draft) (frame : ActivityDiagram.Frame) (label : Option String) :
    (draft.pushClosing frame label).core = draft.core.pushClosing frame label :=
  core_push draft rfl

theorem core_openFrame (draft : Draft) (kind : FrameKind) (bare : node.core = node) :
    (draft.openFrame kind node).core = draft.core.openFrame kind node := by
  have pushed := core_push draft bare
  simp only [openFrame, core_nextName, ← pushed]
  rfl

theorem core_mark? (draft : Draft) (kind : FrameKind) (bare : node.core = node) :
    (draft.mark? kind node).map core = draft.core.mark? kind node := by
  unfold mark?
  cases frames : draft.frames with
  | nil => simp only [core, frames, Option.map_none]
  | cons frame below =>
      have owned : { node with opener := some frame.opener }.core =
          { node with opener := some frame.opener } :=
        congrArg (fun n : ActivityNode => { n with opener := some frame.opener }) bare
      have pushed := core_push draft owned
      simp only [show draft.core.frames = frame :: below from frames]
      split
      · exact congrArg some pushed
      · rfl

theorem core_close? (draft : Draft) (kind : FrameKind) (label : Option String) :
    (draft.close? kind label).map core = draft.core.close? kind label := by
  unfold close?
  cases frames : draft.frames with
  | nil => simp only [core, frames, Option.map_none]
  | cons frame below =>
      simp only [show draft.core.frames = frame :: below from frames]
      split
      · exact congrArg some (core_pushClosing { draft with frames := below } frame label)
      · rfl

theorem core_closePartition? (closed : draft.closePartition? = some next) : next.core = draft.core := by
  obtain ⟨place, places, _, rfl⟩ := exists_of_closePartition? closed
  rfl

theorem core_attachNote (draft : Draft) (text : String) : (draft.attachNote text).core = draft.core :=
  congrArg (fun nodes => ({ nodes, frames := draft.frames } : Draft))
    (Nesting.attachNote_core draft text)

theorem core_closeFrames (draft : Draft) : draft.closeFrames.core = draft.core.closeFrames := by
  unfold closeFrames
  rw [show draft.core.frames = draft.frames from rfl]
  generalize draft.frames = frames
  induction frames generalizing draft with
  | nil => rfl
  | cons frame frames ih => simp only [List.foldl_cons, ih, core_pushClosing]

theorem core_finish (draft : Draft) : draft.finish.core = draft.core.finish := by
  rw [finish_eq, finish_eq, ← core_closeFrames]
  rfl

end Draft

namespace Statement

variable {draft : Draft} {rest : List Line} {statement : Statement}

theorem core_ifAllowed (draft : Draft) (next : Option Draft) (reason : String) :
    (ifAllowed draft next reason : Turn Draft rest).state.core =
      (ifAllowed draft.core (next.map Draft.core) reason : Turn Draft rest).state := by
  cases next <;> rfl

/-- Lanes, partitions and notes leave the rest of a draft as it is. -/
theorem core_turn_context (context : statement.isContext = true) :
    (turn draft statement : Turn Draft rest).state.core = draft.core := by
  cases statement with
  | alone | opens | separates | closes | action | unknown => cases context
  | switchesLane | opensPartition => rfl
  | closesPartition =>
      rw [turn]
      cases closed : draft.closePartition? with
      | none => rfl
      | some next => exact Draft.core_closePartition? closed
  | note words =>
      cases words with
      | none => exact Draft.core_attachNote draft _
      | some words => exact Draft.core_attachNote draft _

theorem core_turn_control (control : statement.isContext = false) :
    (turn draft statement : Turn Draft rest).state.core =
      (turn draft.core statement : Turn Draft rest).state := by
  cases statement with
  | alone node => exact Draft.core_push draft node.2
  | opens kind node => exact Draft.core_openFrame draft kind node.2
  | separates kind node reason =>
      simp only [turn, core_ifAllowed, Draft.core_mark? draft kind node.2]
  | closes kind label reason => simp only [turn, core_ifAllowed, Draft.core_close?]
  | action first => exact Draft.core_push draft rfl
  | unknown => rfl
  | switchesLane | opensPartition | closesPartition | note => cases control

end Statement

/-- Without the lines of lanes, partitions and notes, the rest of a draft is read as it is. -/
theorem core_readAll (draft : Draft) (lines : List Line) :
    (readAll turn draft lines).1.core = (readAll turn draft.core (controlLines lines)).1 := by
  induction lines using constructs_induction generalizing draft with
  | nil => simp only [controlLines, constructs, List.filter_nil, List.flatMap_nil, readAll]
  | cons line rest ih =>
      rw [readAll_cons_fst, left_eq, ih, controlLines_cons]
      cases context : (Statement.ofLine line).isContext with
      | true =>
          rw [if_pos rfl, Statement.turn_eq, Statement.core_turn_context context]
      | false =>
          have onward := (steady_turn draft.core line).fewer
            (controlLines_sublist (turn draft.core line rest).left.1)
          rw [left_eq] at onward
          rw [if_neg Bool.false_ne_true, readAll_cons_fst, onward.1, onward.2, Statement.turn_eq,
            Statement.turn_eq, Statement.core_turn_control context]

/-- Where the lines of lanes, partitions and notes are left out, an activity is read with the same
edges, and with the same nodes but for what those lines tell about them. -/
theorem ofLines_controlLines (lines : List Line) :
    ∃ d diagnostics diagnostics', ofLines lines = .ok (d, diagnostics) ∧
      ofLines (controlLines lines) = .ok (d.core, diagnostics') := by
  obtain ⟨edges, found, _⟩ := Flow.exists_edges lines
  have less : (draftOfLines (controlLines lines)).1 = (draftOfLines lines).1.core := by
    have same := core_readAll {} lines
    exact ((readAll turn {} lines).1.core_finish.trans (congrArg Draft.finish same)).symm
  have found' : Flow.edges (draftOfLines (controlLines lines)).1.nodes = .ok edges := by
    rw [less, ← found]
    exact Flow.edges_core _
  have read := ofLines_of_edges found'
  rw [less] at read
  exact ⟨_, _, _, ofLines_of_edges found, read⟩

end ActivityDiagram

end DiagramMarkup
