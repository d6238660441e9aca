import DiagramMarkup.Diagram.Relation
import DiagramMarkup.Proofs.Tables

/-! # Relations between known nodes

A reader enters the nodes of a relation before the relation. What it holds besides, such as the open
scopes, are names of nodes that it has entered.
-/

namespace DiagramMarkup

/-- The nodes stand under their names, and the relations and the names that are held refer to nodes. -/
structure Linked {α : Type} (name : α → String) (nodes : Table α) (relations : List Relation)
    (held : List String) : Prop where
  keyed : nodes.Keyed name
  joined : ∀ r ∈ relations, r.source ∈ nodes.keys ∧ r.target ∈ nodes.keys
  known : held ⊆ nodes.keys

namespace Linked

variable {α : Type} {name : α → String} {nodes : Table α} {relations more : List Relation}
  {held others : List String} {key : String} {value : α}

theorem empty : Linked name .empty [] [] where
  keyed := Table.keyed_empty
  joined _ member := absurd member List.not_mem_nil
  known := List.nil_subset _

theorem insertNew (linked : Linked name nodes relations held) (same : name value = key) :
    Linked name (nodes.insertNew key value) relations held where
  keyed := linked.keyed.insertNew same
  joined r member :=
    have ends := linked.joined r member
    ⟨Table.mem_keys_insertNew.mpr (.inl ends.1), Table.mem_keys_insertNew.mpr (.inl ends.2)⟩
  known _ member := Table.mem_keys_insertNew.mpr (.inl (linked.known member))

theorem modify {f : α → α} (linked : Linked name nodes relations held)
    (same : ∀ value, name (f value) = name value) :
    Linked name (nodes.modify key f) relations held where
  keyed := linked.keyed.modify same
  joined := by simpa only [Table.keys_modify] using linked.joined
  known := by simpa only [Table.keys_modify] using linked.known

theorem append (linked : Linked name nodes relations held)
    (ends : ∀ r ∈ more, r.source ∈ nodes.keys ∧ r.target ∈ nodes.keys) :
    Linked name nodes (relations ++ more) held where
  keyed := linked.keyed
  joined r member := by
    rcases List.mem_append.mp member with member | member
    · exact linked.joined r member
    · exact ends r member
  known := linked.known

theorem relate (linked : Linked name nodes relations held) {r : Relation}
    (source : r.source ∈ nodes.keys) (target : r.target ∈ nodes.keys) :
    Linked name nodes (relations ++ [r]) held := by
  apply linked.append
  intro r' member
  cases List.mem_singleton.mp member
  exact ⟨source, target⟩

theorem contain (linked : Linked name nodes relations held) {parent : Option String}
    (outer : ∀ p ∈ parent, p ∈ nodes.keys) (inner : key ∈ nodes.keys) :
    Linked name nodes
      (relations ++ parent.toList.map fun p => { source := p, target := key, kind := .containment })
      held := by
  apply linked.append
  intro r member
  obtain ⟨p, here, rfl⟩ := List.mem_map.mp member
  exact ⟨outer p (Option.mem_toList.mp here), inner⟩

theorem hold (linked : Linked name nodes relations held) (known : others ⊆ nodes.keys) :
    Linked name nodes relations others where
  keyed := linked.keyed
  joined := linked.joined
  known := known

end Linked

end DiagramMarkup
