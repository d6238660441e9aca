import DiagramMarkup.Proofs.Activity.Lanes
import DiagramMarkup.Proofs.Activity.Partitions
import Mathlib.Data.List.Forall2

/-! # Where the nodes of an activity are placed

The lanes and partitions of an activity are ranges of places in its list of nodes. They say of every
node which lane and which partition it is in, and every partition stands in the one in which its line
stands.
-/

namespace DiagramMarkup.ActivityDiagram

/-- The partitions that some statements open, the innermost of those that are open already given
first: the name of each, and the name of the innermost one that is open then. -/
def openings : List String → List Statement → List (String × Option String)
  | _, [] => []
  | opened, .opensPartition name :: rest => (name, opened.head?) :: openings (name :: opened) rest
  | opened, .closesPartition :: rest => openings opened.tail rest
  | opened, _ :: rest => openings opened rest

theorem openings_control {statement : Statement} (control : statement.isContext = false)
    (opened : List String) (rest : List Statement) :
    openings opened (statement :: rest) = openings opened rest := by
  cases statement with
  | switchesLane | opensPartition | closesPartition | note => cases control
  | alone | opens | separates | closes | action | unknown => rfl

/-- What a partition tells about its opening. -/
def opening (p : Partition) : String × Option String :=
  (p.name, p.parent)

/-- The open partitions of a draft have some names, the innermost first. -/
def Draft.Opens (draft : Draft) (names : List String) : Prop :=
  List.Forall₂ (fun place name => (draft.partitions.map Partition.name)[place]? = some name)
    draft.openPartitions names

variable {draft next : Draft} {names : List String} {statement : Statement}

theorem map_endAt {β : Type} (view : Partition → β)
    (same : ∀ (p : Partition) (stop : Nat), view { p with stop } = view p)
    (partitions : List Partition) (place stop : Nat) :
    (partitions.modify place fun p => { p with stop }).map view = partitions.map view := by
  apply List.ext_getElem?
  intro k
  rw [List.getElem?_map, List.getElem?_map, List.getElem?_modify]
  cases partitions[k]? with
  | none => rfl
  | some p =>
      simp only [Option.map_eq_map, Option.map_some]
      split
      · rw [same]
      · rfl

theorem map_opening_endAll (stop : Nat) (places : List Nat) (partitions : List Partition) :
    (Draft.endAll stop places partitions).map opening = partitions.map opening := by
  induction places generalizing partitions with
  | nil => rfl
  | cons place places ih => exact (ih _).trans (map_endAt _ (fun _ _ => rfl) partitions place stop)

namespace Draft.Opens

theorem partition?_eq (opens : draft.Opens names) : draft.partition? = names.head? := by
  unfold Draft.partition?
  cases opened : draft.openPartitions with
  | nil =>
      rw [Opens, opened, List.forall₂_nil_left_iff] at opens
      rw [opens]
      rfl
  | cons place places =>
      rw [Opens, opened] at opens
      cases opens with
      | cons here _ =>
          rw [List.getElem?_map] at here
          exact here

theorem effect (opens : draft.Opens names) (effect : Effect draft statement next) :
    ∃ names', next.Opens names' ∧ ∀ rest,
      next.partitions.map opening ++ openings names' rest =
        draft.partitions.map opening ++ openings names (statement :: rest) := by
  cases effect with
  | adds control => exact ⟨names, opens, fun rest => by rw [openings_control control]; rfl⟩
  | stays control => exact ⟨names, opens, fun rest => by rw [openings_control control]⟩
  | switchesLane | attachesNote => exact ⟨names, opens, fun _ => rfl⟩
  | opensPartition name =>
      refine ⟨name :: names, .cons ?_ (opens.imp ?_), ?_⟩
      · simp only [openPartition, List.map_append, List.map_cons, List.map_nil,
          ← List.length_map Partition.name, List.getElem?_concat_length]
      · intro place other here
        have inside := (List.getElem?_eq_some_iff.mp here).1
        simp only [openPartition, List.map_append, List.getElem?_append_left inside, here]
      · intro rest
        simp only [openPartition, opens.partition?_eq, List.map_append, List.map_cons, List.map_nil,
          opening, List.append_assoc, List.cons_append, List.nil_append, openings]
  | @closesPartition place places opened =>
      rw [Opens, opened] at opens
      cases opens with
      | @cons _ name _ names _ below =>
          refine ⟨names, ?_, ?_⟩
          · simp only [Opens, endPartition, map_endAt Partition.name fun _ _ => rfl]
            exact below
          · intro rest
            simp only [endPartition, map_endAt opening fun _ _ => rfl, openings,
              List.tail_cons]
  | unbalanced closed =>
      have none := opens
      rw [Opens, closed, List.forall₂_nil_left_iff] at none
      subst none
      exact ⟨[], opens, fun _ => rfl⟩

/-- A reading opens the partitions that its lines open. -/
theorem readAll (opens : draft.Opens names) (lines : List Line) :
    (readAll turn draft lines).1.partitions.map opening =
      draft.partitions.map opening ++ openings names ((constructs lines).map Construct.statement) := by
  induction lines using constructs_induction generalizing draft names with
  | nil => simp only [DiagramMarkup.readAll, constructs, List.map_nil, openings, List.append_nil]
  | cons line rest ih =>
      obtain ⟨names', opens', told⟩ := opens.effect (.of_turn draft line rest)
      rw [readAll_cons_fst, left_eq, ih opens', told, constructs_cons, List.map_cons]

end Draft.Opens

/-- The partitions of an activity are those that its lines open, each with the one around it as its
parent. -/
theorem openings_draftOfLines (lines : List Line) :
    (draftOfLines lines).1.partitions.map opening =
      openings [] ((constructs lines).map Construct.statement) := by
  have start : Draft.Opens {} [] := .nil
  have opened := start.readAll lines
  rw [draftOfLines_fst, map_opening_endAll, Draft.closeFrames_partitions, opened]
  rfl

/-- Lanes and partitions that describe the nodes of an activity and what its lines say. -/
structure Placed (d : ActivityDiagram) (statements : List Statement) : Prop where
  distinct : (d.swimlanes.map Swimlane.name).Nodup
  /-- A node in a lane stands within the one lane of that name. -/
  inLane : ∀ (place : Nat) (node : ActivityNode) (name : String),
    d.nodes[place]? = some node → node.lane = some name →
      ∃ lane ∈ d.swimlanes, lane.name = name ∧
        (∀ other ∈ d.swimlanes, other.name = name → other = lane) ∧
        lane.first ≤ place ∧ place ≤ lane.last
  ends : ∀ lane ∈ d.swimlanes, EndsLane (d.nodes.map ActivityNode.lane) lane
  bounded : ∀ p ∈ d.partitions, p.start ≤ p.stop ∧ p.stop ≤ d.nodes.length
  /-- Of two partitions, the one that was opened first ends before the other or has it inside. -/
  nested : d.partitions.Pairwise fun p q =>
    p.stop ≤ q.start ∨ p.start ≤ q.start ∧ q.stop ≤ p.stop
  /-- A node is in the last of the partitions whose ranges hold it. -/
  inPartition : ∀ (place : Nat) (node : ActivityNode), d.nodes[place]? = some node →
    node.partition = ((d.partitions.filter fun p => p.start ≤ place ∧ place < p.stop).getLast?).map
      Partition.name
  /-- A partition stands in the innermost one that is open at its line. -/
  opened : d.partitions.map opening = openings [] statements

/-- However lanes and partitions are opened, switched and closed among its constructs, an activity is
read with lanes and partitions that describe its nodes. -/
theorem placed_draftOfLines (lines : List Line) :
    Placed (draftOfLines lines).1 ((constructs lines).map Construct.statement) := by
  have lanes := lanes_draftOfLines lines
  have regions := regions_draftOfLines lines
  refine ⟨lanes.distinct, ?inLane, lanes.ends, ?bounded, regions.pairwise, ?inPartition,
    openings_draftOfLines lines⟩
  case inLane =>
    intro place node name here lane
    apply lanes.exists_lane
    rw [InLane, List.getElem?_map, here, Option.map_some, lane]
  case bounded => simpa only [List.length_map] using regions.bounded
  case inPartition =>
    intro place node here
    apply Innermost.eq_getLast?
    apply regions.described
    rw [List.getElem?_map, here, Option.map_some]

end DiagramMarkup.ActivityDiagram
