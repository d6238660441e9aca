import DiagramMarkup.Proofs.Activity.Statements

/-! # What the lines of an activity do to its lanes and partitions

Only a few statements change the lanes and the partitions of a draft. The others add a node where the
draft stands, or none. The end of the reading adds nodes as well, for what is open then.
-/

namespace DiagramMarkup.ActivityDiagram

/-- What a statement does to the nodes, the lanes and the partitions of a draft. -/
inductive Effect (draft : Draft) : Statement → Draft → Prop where
  /-- A node is added in the current lane and partition. -/
  | adds {statement : Statement} (control : statement.isContext = false) (node : ActivityNode)
      (frames : List Frame) : Effect draft statement { draft.push node with frames }
  | stays {statement : Statement} (control : statement.isContext = false) :
      Effect draft statement draft
  | switchesLane (name : String) : Effect draft (.switchesLane name) (draft.switchLane name)
  | opensPartition (name : String) : Effect draft (.opensPartition name) (draft.openPartition name)
  | closesPartition {place : Nat} {places : List Nat} (opened : draft.openPartitions = place :: places) :
      Effect draft .closesPartition { draft.endPartition place with openPartitions := places }
  /-- There is no partition to be closed. -/
  | unbalanced (closed : draft.openPartitions = []) : Effect draft .closesPartition draft
  | attachesNote (words : Option (List Char)) (text : String) :
      Effect draft (.note words) (draft.attachNote text)

namespace Effect

theorem of_statement (draft : Draft) (rest : List Line) (statement : Statement) :
    Effect draft statement (statement.turn draft : Turn Draft rest).state := by
  cases statement with
  | alone node => exact .adds rfl node.1 draft.frames
  | opens kind node => exact .adds rfl node.1 _
  | separates kind node reason =>
      apply state_ifAllowed (.stays rfl)
      intro next marked
      obtain ⟨frame, below, _, _, rfl⟩ := Draft.exists_of_mark? marked
      exact .adds rfl _ draft.frames
  | closes kind label reason =>
      apply state_ifAllowed (.stays rfl)
      intro next closed
      obtain ⟨frame, below, _, _, rfl⟩ := Draft.exists_of_close? closed
      exact .adds rfl _ below
  | action first => exact .adds rfl _ draft.frames
  | switchesLane name => exact .switchesLane name
  | opensPartition name => exact .opensPartition name
  | closesPartition =>
      unfold Statement.turn Draft.closePartition?
      cases opened : draft.openPartitions with
      | nil => exact .unbalanced opened
      | cons place places => exact .closesPartition opened
  | note words =>
      cases words with
      | none => exact .attachesNote none _
      | some words => exact .attachesNote (some words) _
  | unknown => exact .stays rfl

/-- A turn has the effect of its statement. -/
theorem of_turn (draft : Draft) (line : Line) (rest : List Line) :
    Effect draft (.ofLine line) (turn draft line rest).state := by
  rw [Statement.turn_eq]
  exact of_statement draft rest _

end Effect

/-! ## The end of the reading -/

namespace Draft

/-- The draft once its open constructs are closed. -/
def closeFrames (draft : Draft) : Draft :=
  draft.frames.foldl (fun draft frame => draft.pushClosing frame none) draft

/-- The partitions once those at some places are ended before a node. -/
def endAll (stop : Nat) (places : List Nat) (partitions : List Partition) : List Partition :=
  places.foldl (fun partitions place => partitions.modify place fun p => { p with stop }) partitions

theorem endPartitions_eq (places : List Nat) (draft : Draft) :
    places.foldl endPartition draft =
      { draft with partitions := endAll draft.nodes.length places draft.partitions } := by
  induction places generalizing draft with
  | nil => rfl
  | cons place places ih => exact ih (draft.endPartition place)

theorem finish_eq (draft : Draft) :
    draft.finish =
      { nodes := draft.closeFrames.nodes
        swimlanes := draft.closeFrames.swimlanes
        partitions := endAll draft.closeFrames.nodes.length draft.closeFrames.openPartitions
          draft.closeFrames.partitions } := by
  rw [finish, ← closeFrames, endPartitions_eq]

theorem closeFrames_kept {α : Type} {part : Draft → α}
    (kept : ∀ draft frame, part (draft.pushClosing frame none) = part draft) (draft : Draft) :
    part draft.closeFrames = part draft :=
  List.foldlRecOn (motive := fun next => part next = part draft) draft.frames _ rfl
    fun next same frame _ => (kept next frame).trans same

theorem closeFrames_partitions (draft : Draft) : draft.closeFrames.partitions = draft.partitions :=
  closeFrames_kept (fun _ _ => rfl) draft

theorem closeFrames_openPartitions (draft : Draft) :
    draft.closeFrames.openPartitions = draft.openPartitions :=
  closeFrames_kept (fun _ _ => rfl) draft

theorem closeFrames_invariant {P : Draft → Prop} {draft : Draft}
    (keeps : ∀ draft statement next, Effect draft statement next → P draft → P next)
    (holds : P draft) : P draft.closeFrames := by
  refine List.foldlRecOn draft.frames _ holds ?_
  intro draft holds frame _
  exact keeps draft (.closes frame.kind none "") _ (.adds rfl _ draft.frames) holds

end Draft

theorem draftOfLines_fst (lines : List Line) :
    (draftOfLines lines).1 =
      let last := (readAll turn {} lines).1.closeFrames
      { nodes := last.nodes
        swimlanes := last.swimlanes
        partitions := Draft.endAll last.nodes.length last.openPartitions last.partitions } :=
  Draft.finish_eq _

/-- What every effect keeps holds once a reading is over and the open constructs are closed. -/
theorem closeFrames_readAll {P : Draft → Prop}
    (keeps : ∀ draft statement next, Effect draft statement next → P draft → P next)
    (start : P {}) (lines : List Line) : P (readAll turn {} lines).1.closeFrames := by
  apply Draft.closeFrames_invariant keeps
  exact readAll_invariant
    (fun draft line rest holds => keeps draft _ _ (.of_turn draft line rest) holds) start lines

end DiagramMarkup.ActivityDiagram
