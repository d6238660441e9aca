import DiagramMarkup.Proofs.References.Containment
import DiagramMarkup.Proofs.References.Scopes

/-! # Containment is a forest

A node of a state or a deployment diagram is put into the innermost node that is open where it is
first named, and it stays there: whatever else is read changes no parent, and relates nodes in other
ways only.
-/

namespace DiagramMarkup

open Parents

/-! ## State diagrams -/

namespace StateDiagram

/-- A draft in which parents and relations tell the same. -/
abbrev Draft.IsContained (draft : Draft) : Prop :=
  Contained (draft.diagram.states.parents StateNode.parent) draft.diagram.relations

namespace Draft

variable {draft : Draft} {name : String}

theorem IsContained.ensure (contained : draft.IsContained) (linked : draft.IsLinked) (name : String)
    (kind : StateKind) : (draft.ensure name kind).IsContained := by
  unfold Draft.ensure
  dsimp only
  split
  · exact contained
  · refine Contained.insertNew contained ‹_› ?_
    intro outer inside
    have open_scope : outer ∈ draft.scopes.head? := Option.eq_some_of_filter_eq_some inside
    exact linked.known (List.mem_of_mem_head? open_scope)

theorem IsContained.change (contained : draft.IsContained) {f : StateNode → StateNode}
    (same : ∀ node, (f node).parent = node.parent) : (draft.change name f).IsContained :=
  Contained.modify contained same

theorem IsContained.describe (contained : draft.IsContained) (name : String)
    (description : List Char) : (draft.describe name description).IsContained := by
  unfold Draft.describe
  split
  · exact contained
  · exact contained.change fun _ => rfl

theorem IsContained.openScope (contained : draft.IsContained) (name : String) :
    (draft.openScope name).IsContained :=
  contained

theorem IsContained.declare (contained : draft.IsContained) (linked : draft.IsLinked)
    (declaration : List Char) : (draft.declare declaration).IsContained := by
  unfold Draft.declare
  dsimp only
  generalize Phrase.nameAndLabel _ = names
  split
  · exact contained
  · split
    · apply IsContained.openScope
      apply IsContained.describe
      apply (contained.ensure linked _ _).change
      intro node
      rfl
    · apply IsContained.describe
      apply (contained.ensure linked _ _).change
      intro node
      rfl

theorem IsContained.relate (contained : draft.IsContained) (linked : draft.IsLinked)
    (arrow : Phrase.Arrow) : (draft.relate arrow).IsContained := by
  have entered (source target : String) (first second : StateKind) :=
    (contained.ensure linked source first).ensure (linked.ensure source first) target second
  unfold Draft.relate endpoint
  dsimp only
  refine Contained.relate (entered _ _ _ _) ?_
  intro r member
  cases List.mem_singleton.mp member
  exact nofun

theorem IsContained.turn (contained : draft.IsContained) (linked : draft.IsLinked) (line : Line)
    (rest : List Line) : (StateDiagram.turn draft line rest).state.IsContained := by
  unfold StateDiagram.turn
  dsimp only
  split
  · exact contained
  · split
    · exact contained
    · split
      · exact contained
      · split
        · rw [Turn.state_took1]
          exact contained.declare linked _
        · split
          · rw [Turn.state_took1]
            exact contained.relate linked _
          · split
            · rw [Turn.state_took1]
              exact (contained.ensure linked _ _).describe _ _
            · exact contained

theorem IsContained.ensureAll (contained : draft.IsContained) (linked : draft.IsLinked)
    (names : List String) :
    (names.foldl (fun draft name => draft.ensure name .normal) draft).IsContained := by
  induction names generalizing draft with
  | nil => exact contained
  | cons name names ih => exact ih (contained.ensure linked name _) (linked.ensure name _)

end Draft

theorem contained_ofLines (lines : List Line) :
    Contained ((ofLines lines).1.states.parents StateNode.parent) (ofLines lines).1.relations := by
  obtain ⟨linked, contained⟩ :=
    readAll_invariant (P := fun draft : Draft => draft.IsLinked ∧ draft.IsContained)
      (fun _ line rest both => ⟨both.1.turn line rest, both.2.turn both.1 line rest⟩)
      (s := {}) ⟨.empty, .empty⟩ lines
  exact contained.ensureAll linked _

end StateDiagram

/-! ## Deployment diagrams -/

namespace DeploymentDiagram

/-- A draft in which parents and relations tell the same. -/
abbrev Draft.IsContained (draft : Draft) : Prop :=
  Contained (draft.diagram.nodes.parents Device.parent) draft.diagram.relations

namespace Draft

variable {draft : Draft}

theorem IsContained.enter (contained : draft.IsContained) (linked : draft.IsLinked) (name : String)
    (archetype : Archetype) : (draft.enter name archetype).IsContained := by
  unfold Draft.enter
  dsimp only
  split
  · exact contained
  · refine Contained.insertNew contained ‹_› ?_
    intro outer inside
    exact linked.known (List.mem_of_mem_head? inside)

theorem IsContained.declareLine (contained : draft.IsContained) (linked : draft.IsLinked)
    (declaration : List Char) (archetype : Archetype) :
    (draft.declareLine declaration archetype).IsContained := by
  unfold Draft.declareLine
  dsimp only
  generalize Phrase.nameAndLabel _ = names
  have declared (name label : String) : (draft.declare name label archetype).IsContained :=
    Contained.modify (f := fun device : Device => { device with archetype, label })
      (contained.enter linked name archetype) fun _ => rfl
  split
  · exact contained
  · split
    · exact declared _ _
    · exact declared _ _

theorem IsContained.relate (contained : draft.IsContained) (linked : draft.IsLinked)
    (arrow : Phrase.Arrow) : (draft.relate arrow).IsContained := by
  have entered (left right : String) (first second : Archetype) :=
    (contained.enter linked left first).enter (linked.enter left first) right second
  unfold Draft.relate ensure
  dsimp only
  refine Contained.relate (entered _ _ _ _) ?_
  intro r member
  cases List.mem_singleton.mp member
  dsimp only
  split <;> exact nofun

theorem IsContained.turn (contained : draft.IsContained) (linked : draft.IsLinked) (line : Line)
    (rest : List Line) : (DeploymentDiagram.turn draft line rest).state.IsContained := by
  unfold DeploymentDiagram.turn
  dsimp only
  split
  · exact contained
  · split
    · exact contained
    · split
      · rw [Turn.state_took1]
        exact contained.declareLine linked _ _
      · split
        · rw [Turn.state_took1]
          exact contained.relate linked _
        · split
          · rw [Turn.state_took1]
            exact contained.declareLine linked _ _
          · exact contained

theorem IsContained.ensureAll (contained : draft.IsContained) (linked : draft.IsLinked)
    (names : List String) :
    (names.foldl (fun draft name => (draft.ensure name.toList).1) draft).IsContained := by
  induction names generalizing draft with
  | nil => exact contained
  | cons name names ih => exact ih (contained.enter linked _ _) (linked.enter _ _)

end Draft

theorem contained_ofLines (lines : List Line) :
    Contained ((ofLines lines).1.nodes.parents Device.parent) (ofLines lines).1.relations := by
  obtain ⟨linked, contained⟩ :=
    readAll_invariant (P := fun draft : Draft => draft.IsLinked ∧ draft.IsContained)
      (fun _ line rest both => ⟨both.1.turn line rest, both.2.turn both.1 line rest⟩)
      (s := {}) ⟨.empty, .empty⟩ lines
  exact contained.ensureAll linked _

end DeploymentDiagram

/-- Whatever the lines open and close, and in whichever order, the states that they name form a
forest, and so do the deployed things. -/
theorem forest_ofLines (lines : List Line) :
    Forest ((StateDiagram.ofLines lines).1.states.parents StateNode.parent)
        (StateDiagram.ofLines lines).1.relations ∧
      Forest ((DeploymentDiagram.ofLines lines).1.nodes.parents Device.parent)
        (DeploymentDiagram.ofLines lines).1.relations := by
  have distinct {α : Type} (nodes : Table α) (parent : α → Option String) :
      (names (nodes.parents parent)).Nodup := by
    rw [Table.names_parents]
    exact nodes.nodup_keys
  exact ⟨(StateDiagram.contained_ofLines lines).forest (distinct _ _),
    (DeploymentDiagram.contained_ofLines lines).forest (distinct _ _)⟩

end DiagramMarkup
