import DiagramMarkup.Proofs.Reading
import DiagramMarkup.Proofs.References.Linked
import DiagramMarkup.Reading.Deployment
import DiagramMarkup.Reading.States

/-! # References of diagrams with scopes

The nodes of a relation are entered before it, and a scope that is open is a node.
-/

namespace DiagramMarkup

/-! ## State diagrams -/

namespace StateDiagram

/-- A draft whose relations run between its states, and whose open scopes are states. -/
abbrev Draft.IsLinked (draft : Draft) : Prop :=
  Linked StateNode.name draft.diagram.states draft.diagram.relations draft.scopes

namespace Draft

variable {draft : Draft} {name other : String} {kind : StateKind}

theorem mem_ensure :
    other ∈ (draft.ensure name kind).diagram.states.keys ↔
      other ∈ draft.diagram.states.keys ∨ other = name := by
  unfold ensure
  dsimp only
  split
  · exact Table.mem_or_eq_of_mem (Table.contains_iff.mp ‹_›)
  · exact Table.mem_keys_insertNew

theorem IsLinked.ensure (linked : draft.IsLinked) (name : String) (kind : StateKind) :
    (draft.ensure name kind).IsLinked := by
  unfold Draft.ensure
  dsimp only
  split
  · exact linked
  · refine Linked.contain ?_ ?_ (Table.mem_keys_insertNew.mpr (.inr rfl))
    · exact Linked.insertNew linked (by rfl)
    · intro p outer
      have open_scope : p ∈ draft.scopes.head? := Option.eq_some_of_filter_eq_some outer
      exact Table.mem_keys_insertNew.mpr (.inl (linked.known (List.mem_of_mem_head? open_scope)))

theorem IsLinked.change (linked : draft.IsLinked) {f : StateNode → StateNode}
    (same : ∀ node, (f node).name = node.name) : (draft.change name f).IsLinked :=
  Linked.modify linked same

theorem keys_change {f : StateNode → StateNode} :
    (draft.change name f).diagram.states.keys = draft.diagram.states.keys :=
  Table.keys_modify ..

theorem IsLinked.describe (linked : draft.IsLinked) (name : String) (description : List Char) :
    (draft.describe name description).IsLinked := by
  unfold Draft.describe
  split
  · exact linked
  · exact linked.change fun _ => rfl

theorem keys_describe (name : String) (description : List Char) :
    (draft.describe name description).diagram.states.keys = draft.diagram.states.keys := by
  unfold describe
  split
  · rfl
  · exact Table.keys_modify ..

theorem IsLinked.openScope (linked : draft.IsLinked) (known : name ∈ draft.diagram.states.keys) :
    (draft.openScope name).IsLinked :=
  linked.hold (List.cons_subset.mpr ⟨known, linked.known⟩)

theorem IsLinked.closeScope (linked : draft.IsLinked) : draft.closeScope.IsLinked :=
  linked.hold fun _ member => linked.known (List.mem_of_mem_tail member)

theorem IsLinked.declare (linked : draft.IsLinked) (declaration : List Char) :
    (draft.declare declaration).IsLinked := by
  unfold Draft.declare
  dsimp only
  generalize Phrase.nameAndLabel _ = names
  split
  · exact linked
  · split
    · apply IsLinked.openScope
      · apply IsLinked.describe
        apply (linked.ensure _ _).change
        intro node
        rfl
      · rw [keys_describe, keys_change]
        exact mem_ensure.mpr (.inr rfl)
    · apply IsLinked.describe
      apply (linked.ensure _ _).change
      intro node
      rfl

theorem IsLinked.relate (linked : draft.IsLinked) (arrow : Phrase.Arrow) :
    (draft.relate arrow).IsLinked := by
  unfold Draft.relate endpoint
  dsimp only
  refine Linked.relate ((linked.ensure _ _).ensure _ _) ?_ ?_
  · exact mem_ensure.mpr (.inl (mem_ensure.mpr (.inr rfl)))
  · exact mem_ensure.mpr (.inr rfl)

theorem IsLinked.turn (linked : draft.IsLinked) (line : Line) (rest : List Line) :
    (StateDiagram.turn draft line rest).state.IsLinked := by
  unfold StateDiagram.turn
  dsimp only
  split
  · exact linked.closeScope
  · split
    · exact linked
    · split
      · exact linked
      · split
        · rw [Turn.state_took1]
          exact linked.declare _
        · split
          · rw [Turn.state_took1]
            exact linked.relate _
          · split
            · rw [Turn.state_took1]
              exact (linked.ensure _ _).describe _ _
            · exact linked

theorem IsLinked.ensureAll (linked : draft.IsLinked) (names : List String) :
    (names.foldl (fun draft name => draft.ensure name .normal) draft).IsLinked :=
  List.foldlRecOn names _ linked fun _ linked name _ => linked.ensure name .normal

end Draft

theorem linked_ofLines (lines : List Line) :
    Linked StateNode.name (ofLines lines).1.states (ofLines lines).1.relations [] := by
  have linked : (readAll turn {} lines).1.IsLinked :=
    readAll_invariant (P := Draft.IsLinked) (fun _ line rest linked => linked.turn line rest) .empty lines
  exact Linked.hold (linked.ensureAll _) (List.nil_subset _)

end StateDiagram

/-! ## Deployment diagrams -/

namespace DeploymentDiagram

/-- A draft whose relations run between its things, and whose open scopes are things. -/
abbrev Draft.IsLinked (draft : Draft) : Prop :=
  Linked Device.name draft.diagram.nodes draft.diagram.relations draft.scopes

namespace Draft

variable {draft : Draft} {name other : String} {archetype : Archetype}

theorem mem_enter :
    other ∈ (draft.enter name archetype).diagram.nodes.keys ↔
      other ∈ draft.diagram.nodes.keys ∨ other = name := by
  unfold enter
  dsimp only
  split
  · exact Table.mem_or_eq_of_mem (Table.contains_iff.mp ‹_›)
  · exact Table.mem_keys_insertNew

theorem IsLinked.enter (linked : draft.IsLinked) (name : String) (archetype : Archetype) :
    (draft.enter name archetype).IsLinked := by
  unfold Draft.enter
  dsimp only
  split
  · exact linked
  · refine Linked.contain ?_ ?_ (Table.mem_keys_insertNew.mpr (.inr rfl))
    · exact Linked.insertNew linked (by rfl)
    · intro p outer
      exact Table.mem_keys_insertNew.mpr (.inl (linked.known (List.mem_of_mem_head? outer)))

theorem IsLinked.declare (linked : draft.IsLinked) (name label : String) (archetype : Archetype) :
    (draft.declare name label archetype).IsLinked :=
  Linked.modify (f := fun device : Device => { device with archetype, label })
    (linked.enter name archetype) fun _ => rfl

theorem mem_declare {label : String} :
    name ∈ (draft.declare name label archetype).diagram.nodes.keys :=
  (Table.keys_modify ..).symm ▸ mem_enter.mpr (.inr rfl)

theorem IsLinked.declareLine (linked : draft.IsLinked) (declaration : List Char)
    (archetype : Archetype) : (draft.declareLine declaration archetype).IsLinked := by
  unfold Draft.declareLine
  dsimp only
  generalize Phrase.nameAndLabel _ = names
  split
  · exact linked
  · have declared (name label : String) := linked.declare name label archetype
    split
    · exact Linked.hold (declared _ _) (List.cons_subset.mpr ⟨mem_declare, (declared _ _).known⟩)
    · exact declared _ _

theorem IsLinked.relate (linked : draft.IsLinked) (arrow : Phrase.Arrow) :
    (draft.relate arrow).IsLinked := by
  have entered (left right : String) (first second : Archetype) :=
    (linked.enter left first).enter right second
  have left (left right : String) (first second : Archetype) :
      left ∈ ((draft.enter left first).enter right second).diagram.nodes.keys :=
    mem_enter.mpr (.inl (mem_enter.mpr (.inr rfl)))
  have right (left right : String) (first second : Archetype) :
      right ∈ ((draft.enter left first).enter right second).diagram.nodes.keys :=
    mem_enter.mpr (.inr rfl)
  unfold Draft.relate ensure
  dsimp only
  refine Linked.relate (entered _ _ _ _) ?_ ?_
  · dsimp only
    split
    · exact right _ _ _ _
    · exact left _ _ _ _
  · dsimp only
    split
    · exact left _ _ _ _
    · exact right _ _ _ _

theorem IsLinked.turn (linked : draft.IsLinked) (line : Line) (rest : List Line) :
    (DeploymentDiagram.turn draft line rest).state.IsLinked := by
  unfold DeploymentDiagram.turn
  dsimp only
  split
  · exact Linked.hold linked fun _ member => linked.known (List.mem_of_mem_tail member)
  · split
    · exact linked
    · split
      · rw [Turn.state_took1]
        exact linked.declareLine _ _
      · split
        · rw [Turn.state_took1]
          exact linked.relate _
        · split
          · rw [Turn.state_took1]
            exact linked.declareLine _ _
          · exact linked

theorem IsLinked.ensureAll (linked : draft.IsLinked) (names : List String) :
    (names.foldl (fun draft name => (draft.ensure name.toList).1) draft).IsLinked :=
  List.foldlRecOn names _ linked fun _ linked _ _ => linked.enter _ _

end Draft

theorem linked_ofLines (lines : List Line) :
    Linked Device.name (ofLines lines).1.nodes (ofLines lines).1.relations [] := by
  have linked : (readAll turn {} lines).1.IsLinked :=
    readAll_invariant (P := Draft.IsLinked) (fun _ line rest linked => linked.turn line rest) .empty lines
  exact Linked.hold (linked.ensureAll _) (List.nil_subset _)

end DeploymentDiagram

end DiagramMarkup
