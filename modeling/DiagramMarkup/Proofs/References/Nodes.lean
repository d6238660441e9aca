import DiagramMarkup.Proofs.Reading
import DiagramMarkup.Proofs.References.Linked
import DiagramMarkup.Reading.Classes
import DiagramMarkup.Reading.Entities
import DiagramMarkup.Reading.MindMap
import DiagramMarkup.Reading.UseCases

/-! # References of diagrams without scopes

The nodes of a relation are entered before it or with it. An endpoint of a use case diagram may mean an
element by its label, and a topic is put below one of its ancestors, which are topics.
-/

namespace DiagramMarkup

/-! ## Class diagrams -/

namespace ClassDiagram

/-- A class diagram whose relations run between its classes. -/
abbrev IsLinked (d : ClassDiagram) : Prop :=
  Linked ClassNode.name d.classes d.relations []

variable {d : ClassDiagram}

theorem IsLinked.ensure (linked : d.IsLinked) (name : String) (kind : ClassKind) :
    (d.ensure name kind).IsLinked :=
  Linked.insertNew linked rfl

theorem mem_ensure {name other : String} {kind : ClassKind} :
    other ∈ (d.ensure name kind).classes.keys ↔ other ∈ d.classes.keys ∨ other = name :=
  Table.mem_keys_insertNew

theorem IsLinked.change (linked : d.IsLinked) (name : String) {f : ClassNode → ClassNode}
    (same : ∀ node, (f node).name = node.name) : (d.change name f).IsLinked :=
  Linked.modify linked same

theorem keys_change {name : String} {f : ClassNode → ClassNode} :
    (d.change name f).classes.keys = d.classes.keys :=
  Table.keys_modify ..

theorem addMember_name (node : ClassNode) (member : Member) :
    (node.addMember member).name = node.name := by
  unfold ClassNode.addMember
  split <;> rfl

theorem foldl_addMember_name (members : List Member) (node : ClassNode) :
    (members.foldl ClassNode.addMember node).name = node.name := by
  induction members generalizing node with
  | nil => rfl
  | cons member members ih => rw [List.foldl_cons, ih, addMember_name]

theorem IsLinked.addParents {name : String} (parents : List (List Char × RelationKind))
    (linked : d.IsLinked) (known : name ∈ d.classes.keys) :
    (parents.foldl (addParent name) d).IsLinked := by
  induction parents generalizing d with
  | nil => exact linked
  | cons parent parents ih =>
      have known' : name ∈ (addParent name d parent).classes.keys := mem_ensure.mpr (.inl known)
      refine ih ?_ known'
      exact Linked.relate (linked.ensure _ _) known' (mem_ensure.mpr (.inr rfl))

theorem IsLinked.describe {f g : ClassNode → ClassNode} {name : String} {kind : ClassKind}
    {parents : List (List Char × RelationKind)} (linked : d.IsLinked)
    (same : ∀ node, (f node).name = node.name) (same' : ∀ node, (g node).name = node.name) :
    (parents.foldl (addParent name) (((d.ensure name kind).change name f).change name g)).IsLinked := by
  have entered := linked.ensure name kind
  apply IsLinked.addParents
  · exact (entered.change name same).change name same'
  · rw [keys_change, keys_change]
    exact mem_ensure.mpr (.inr rfl)

theorem IsLinked.declare (linked : d.IsLinked) (kind : ClassKind) (declaration : List Char)
    (rest : List Line) : (d.declare kind declaration rest).state.IsLinked := by
  unfold ClassDiagram.declare
  dsimp only
  split
  · exact linked
  · apply linked.describe
    · intro node
      rfl
    · exact foldl_addMember_name _

theorem IsLinked.relate (linked : d.IsLinked) (arrow : Phrase.Arrow) : (d.relate arrow).IsLinked := by
  unfold ClassDiagram.relate
  dsimp only
  split
  · exact IsLinked.ensure linked _ _
  · split
    · exact IsLinked.ensure linked _ _
    · refine Linked.relate ((linked.ensure _ _).ensure _ _) ?_ ?_
      · exact mem_ensure.mpr (.inl (mem_ensure.mpr (.inr rfl)))
      · exact mem_ensure.mpr (.inr rfl)

theorem IsLinked.turn (linked : d.IsLinked) (line : Line) (rest : List Line) :
    (ClassDiagram.turn d line rest).state.IsLinked := by
  unfold ClassDiagram.turn
  dsimp only
  split
  · exact linked
  · split
    · exact linked.declare _ _ _
    · split
      · exact linked
      · split
        · exact linked.relate _
        · split
          · refine IsLinked.change (linked.ensure _ _) _ ?_
            intro node
            cases Phrase.member? _ with
            | none => rfl
            | some member => exact addMember_name node member
          · exact linked

theorem IsLinked.ensureAll (linked : d.IsLinked) (names : List String) :
    (names.foldl (fun d name => d.ensure name) d).IsLinked :=
  List.foldlRecOn names _ linked fun _ linked name _ => linked.ensure name .plain

theorem linked_ofLines (lines : List Line) : (ofLines lines).1.IsLinked := by
  have linked : (readAll ClassDiagram.turn {} lines).1.IsLinked :=
    readAll_invariant (P := IsLinked) (fun _ line rest linked => linked.turn line rest) .empty lines
  exact linked.ensureAll _

end ClassDiagram

/-! ## Entity relationship diagrams -/

namespace EntityDiagram

/-- An entity diagram whose relationships are between its entities. -/
abbrev IsLinked (d : EntityDiagram) : Prop :=
  Linked Entity.name d.entities (d.relationships.map Relationship.toRelation) []

variable {d : EntityDiagram} {name other : String}

theorem IsLinked.ensure (linked : d.IsLinked) (name : String) : (d.ensure name).IsLinked :=
  Linked.insertNew linked rfl

theorem mem_ensure : other ∈ (d.ensure name).entities.keys ↔ other ∈ d.entities.keys ∨ other = name :=
  Table.mem_keys_insertNew

theorem IsLinked.declare (linked : d.IsLinked) (declaration : List Char) (rest : List Line) :
    (d.declare declaration rest).state.IsLinked := by
  unfold EntityDiagram.declare
  dsimp only
  generalize Phrase.nameAndLabel _ = names
  split
  · exact linked
  · unfold IsLinked
    dsimp only [Turn.state]
    apply Linked.modify (linked.ensure _)
    intro entity
    rfl

theorem IsLinked.relate (linked : d.IsLinked) (relationship : Relationship) :
    (d.relate relationship).IsLinked := by
  have entered := (linked.ensure relationship.source).ensure relationship.target
  unfold IsLinked EntityDiagram.relate
  rw [List.map_append, List.map_singleton]
  apply Linked.relate entered
  · exact mem_ensure.mpr (.inl (mem_ensure.mpr (.inr rfl)))
  · exact mem_ensure.mpr (.inr rfl)

theorem IsLinked.turn (linked : d.IsLinked) (line : Line) (rest : List Line) :
    (EntityDiagram.turn d line rest).state.IsLinked := by
  unfold EntityDiagram.turn
  split
  · exact linked.declare _ _
  · split
    · rw [Turn.state_took1]
      exact linked.relate _
    · exact linked

theorem linked_ofLines (lines : List Line) : (ofLines lines).1.IsLinked :=
  readAll_invariant (P := IsLinked) (fun _ line rest linked => linked.turn line rest) .empty lines

end EntityDiagram

/-! ## Use case diagrams -/

namespace UseCaseDiagram

/-- A draft whose relations run between its elements. -/
abbrev Draft.IsLinked (draft : Draft) : Prop :=
  Linked UseCaseNode.name draft.diagram.nodes draft.diagram.relations []

namespace Draft

variable {draft : Draft} {name other : String}

theorem IsLinked.declare (linked : draft.IsLinked) (name label : String) (kind : UseCaseKind) :
    (draft.declare name label kind).IsLinked := by
  let fresh : UseCaseNode := { name, label := name, kind }
  have entered : Linked UseCaseNode.name (draft.diagram.nodes.insertNew name fresh)
      draft.diagram.relations [] := linked.insertNew rfl
  exact Linked.modify (f := fun node =>
    { node with kind, label, boundary := node.boundary.or draft.boundaries.head? }) entered fun _ => rfl

theorem mem_declare {label : String} {kind : UseCaseKind} :
    other ∈ (draft.declare name label kind).diagram.nodes.keys ↔
      other ∈ draft.diagram.nodes.keys ∨ other = name := by
  unfold declare
  rw [Table.keys_modify]
  exact Table.mem_keys_insertNew

theorem IsLinked.ensure (linked : draft.IsLinked) (token : List Char) :
    (draft.ensure token).1.IsLinked ∧
      (draft.ensure token).2 ∈ (draft.ensure token).1.diagram.nodes.keys ∧
        draft.diagram.nodes.keys ⊆ (draft.ensure token).1.diagram.nodes.keys := by
  unfold Draft.ensure
  dsimp only
  split
  · rename_i node found
    exact ⟨linked, linked.keyed.mem_keys (List.mem_of_find?_eq_some found), List.Subset.refl _⟩
  · split
    · rename_i known
      exact ⟨linked, Table.contains_iff.mp known, List.Subset.refl _⟩
    · refine ⟨linked.declare _ _ _, mem_declare.mpr (.inr rfl), ?_⟩
      intro other member
      exact mem_declare.mpr (.inl member)

theorem IsLinked.relate (linked : draft.IsLinked) (arrow : Phrase.Arrow) :
    (draft.relate arrow).IsLinked := by
  obtain ⟨first, left, _⟩ := linked.ensure arrow.left
  obtain ⟨second, right, kept⟩ := first.ensure arrow.right
  unfold Draft.relate
  dsimp only
  refine Linked.relate second ?_ ?_
  · dsimp only
    split
    · exact right
    · exact kept left
  · dsimp only
    split
    · exact kept left
    · exact right

theorem IsLinked.turn (linked : draft.IsLinked) (line : Line) (rest : List Line) :
    (UseCaseDiagram.turn draft line rest).state.IsLinked := by
  unfold UseCaseDiagram.turn
  dsimp only
  split
  · exact linked
  · split
    · exact linked
    · split
      · exact linked
      · split
        · rw [Turn.state_took1]
          exact linked.relate _
        · split
          · rw [Turn.state_took1]
            exact linked.declare _ _ _
          · exact linked

theorem IsLinked.ensureAll (linked : draft.IsLinked) (names : List String) :
    (names.foldl (fun draft name => (draft.ensure name.toList).1) draft).IsLinked :=
  List.foldlRecOn names _ linked fun _ linked name _ => (linked.ensure name.toList).1

end Draft

theorem linked_ofLines (lines : List Line) :
    Linked UseCaseNode.name (ofLines lines).1.nodes (ofLines lines).1.relations [] := by
  have linked : (readAll turn {} lines).1.IsLinked :=
    readAll_invariant (P := Draft.IsLinked) (fun _ line rest linked => linked.turn line rest) .empty lines
  exact linked.ensureAll _

end UseCaseDiagram

/-! ## Mind maps -/

namespace MindMap

/-- A draft whose relations run between its topics, and whose ancestors are topics. -/
abbrev Draft.IsLinked (draft : Draft) : Prop :=
  Linked Topic.name draft.map.nodes draft.map.relations (draft.ancestors.map Ancestor.name)

namespace Draft

variable {draft : Draft}

theorem IsLinked.backTo (linked : draft.IsLinked) (level : Nat) : (draft.backTo level).IsLinked := by
  apply Linked.hold linked
  intro name member
  obtain ⟨ancestor, here, rfl⟩ := List.mem_map.mp member
  exact linked.known (List.mem_map_of_mem (List.dropWhile_subset _ here))

theorem IsLinked.enter (linked : draft.IsLinked) (entry : Entry) (label : List Char) :
    (draft.enter entry label).IsLinked := by
  unfold Draft.enter
  dsimp only
  apply Linked.hold
  · apply Linked.contain
    · exact Linked.insertNew linked (by rfl)
    · intro p parent
      obtain ⟨ancestor, here, rfl⟩ := Option.map_eq_some_iff.mp parent
      have member := List.mem_map_of_mem (f := Ancestor.name) (List.mem_of_mem_head? here)
      exact Table.mem_keys_insertNew.mpr (.inl (linked.known member))
    · exact Table.mem_keys_insertNew.mpr (.inr rfl)
  · apply List.cons_subset.mpr
    refine ⟨Table.mem_keys_insertNew.mpr (.inr rfl), ?_⟩
    intro name member
    exact Table.mem_keys_insertNew.mpr (.inl (linked.known member))

theorem IsLinked.turn (linked : draft.IsLinked) (line : Line) (rest : List Line) :
    (MindMap.turn draft line rest).state.IsLinked := by
  unfold MindMap.turn
  dsimp only
  split
  · exact linked
  · split
    · exact linked
    · have back := linked.backTo
      split
      · exact back _
      · exact (back _).enter _ _

end Draft

theorem linked_ofLines (lines : List Line) :
    Linked Topic.name (ofLines lines).1.nodes (ofLines lines).1.relations [] := by
  have linked : (readAll turn {} lines).1.IsLinked :=
    readAll_invariant (P := Draft.IsLinked) (fun _ line rest linked => linked.turn line rest) .empty lines
  exact Linked.hold linked (List.nil_subset _)

end MindMap

end DiagramMarkup
