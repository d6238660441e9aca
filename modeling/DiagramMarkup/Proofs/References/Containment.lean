import DiagramMarkup.Diagram.Relation
import DiagramMarkup.Proofs.Tables
import Mathlib.Data.List.Basic
import Mathlib.Logic.Relation

/-! # Containment

What a node stands in is told twice: by its parent, and by a relation that leads to it. A reader that
writes both together, and puts a node only into one that it has entered, describes a forest.
-/

namespace DiagramMarkup

/-- Names in the order in which they were entered, each with the parent that it was entered under. -/
abbrev Parents : Type :=
  List (String × Option String)

/-- The names and the parents of the nodes of a table. -/
def Table.parents {α : Type} (parent : α → Option String) (nodes : Table α) : Parents :=
  nodes.entries.map fun entry => (entry.1, parent entry.2)

namespace Parents

def names (parents : Parents) : List String :=
  parents.map Prod.fst

/-- Something stands directly in something else. -/
def Contains (parents : Parents) (outer inner : String) : Prop :=
  (inner, some outer) ∈ parents

/-- The relation that says what a name stands in. -/
def containment (child : String × Option String) : Option Relation :=
  child.2.map fun parent => { source := parent, target := child.1, kind := .containment }

end Parents

open Parents

namespace Table

variable {α : Type} {parent : α → Option String} {nodes : Table α} {key : String} {value : α}

theorem names_parents (parent : α → Option String) (nodes : Table α) :
    names (nodes.parents parent) = nodes.keys := by
  rw [names, parents, List.map_map]
  rfl

theorem parents_insertNew (fresh : key ∉ nodes.keys) :
    (nodes.insertNew key value).parents parent = nodes.parents parent ++ [(key, parent value)] := by
  unfold insertNew
  rw [dif_neg fresh]
  exact List.map_append

theorem parents_modify {f : α → α} (same : ∀ value, parent (f value) = parent value) :
    (nodes.modify key f).parents parent = nodes.parents parent := by
  unfold parents modify
  rw [List.map_map]
  apply List.map_congr_left
  intro entry _
  rw [Function.comp_apply]
  split
  · rw [same]
  · rfl

end Table

/-- Every parent was entered before, and the relations tell of every parent once and in order. -/
structure Contained (parents : Parents) (relations : List Relation) : Prop where
  earlier : ∀ (place : Nat) (name parent : String), parents[place]? = some (name, some parent) →
    parent ∈ names (parents.take place)
  recorded : relations.filter (·.kind = .containment) = parents.filterMap containment

/-- Nothing stands in itself, however deep. -/
structure Forest (parents : Parents) (relations : List Relation) : Prop extends
    Contained parents relations where
  acyclic : ∀ name, ¬ Relation.TransGen (Contains parents) name name

namespace Contained

variable {parents : Parents} {relations more : List Relation} {name : String}
  {parent : Option String}

theorem empty : Contained [] [] where
  earlier _ _ _ here := by simp only [List.getElem?_nil, reduceCtorEq] at here
  recorded := rfl

/-- A new name is entered under one that is known, together with the relation that says so. -/
theorem enter (contained : Contained parents relations)
    (known : ∀ outer ∈ parent, outer ∈ names parents) :
    Contained (parents ++ [(name, parent)]) (relations ++ parent.toList.map fun outer =>
      { source := outer, target := name, kind := .containment }) where
  earlier place inner outer here := by
    rcases getElem?_append_singleton_iff.mp here with ⟨before, here⟩ | ⟨rfl, new⟩
    · rw [List.take_append_of_le_length (Nat.le_of_lt before)]
      exact contained.earlier place inner outer here
    · cases new
      rw [List.take_left]
      exact known outer rfl
  recorded := by
    rw [List.filter_append, contained.recorded, List.filterMap_append]
    cases parent <;> rfl

theorem insertNew {α : Type} {parent : α → Option String} {nodes : Table α} {value : α}
    (contained : Contained (nodes.parents parent) relations) (fresh : ¬ nodes.contains name = true)
    (known : ∀ outer ∈ parent value, outer ∈ nodes.keys) :
    Contained ((nodes.insertNew name value).parents parent)
      (relations ++ (parent value).toList.map fun outer =>
        { source := outer, target := name, kind := .containment }) := by
  rw [Table.parents_insertNew fun member => fresh (Table.contains_iff.mpr member)]
  apply contained.enter
  rw [Table.names_parents]
  exact known

theorem modify {α : Type} {parent : α → Option String} {nodes : Table α} {f : α → α}
    (contained : Contained (nodes.parents parent) relations)
    (same : ∀ value, parent (f value) = parent value) :
    Contained ((nodes.modify name f).parents parent) relations := by
  rw [Table.parents_modify same]
  exact contained

theorem relate (contained : Contained parents relations)
    (other : ∀ r ∈ more, r.kind ≠ .containment) : Contained parents (relations ++ more) where
  earlier := contained.earlier
  recorded := by
    have none : more.filter (·.kind = .containment) = [] :=
      List.filter_eq_nil_iff.mpr fun r member => by simpa using other r member
    rw [List.filter_append, none, List.append_nil, contained.recorded]

/-- Where every name is entered once, what contains a name comes before it. -/
theorem idxOf_lt (contained : Contained parents relations) (distinct : (names parents).Nodup)
    {outer inner : String} (contains : Contains parents outer inner) :
    (names parents).idxOf outer < (names parents).idxOf inner := by
  obtain ⟨place, here⟩ := List.mem_iff_getElem?.mp contains
  have before : outer ∈ (names parents).take place := by
    rw [names, ← List.map_take]
    exact contained.earlier place inner outer here
  have inside : place < (names parents).length := by
    rw [names, List.length_map]
    exact (List.getElem?_eq_some_iff.mp here).1
  have same : (names parents)[place] = inner := by
    apply Option.some.inj
    rw [← List.getElem?_eq_getElem inside, names, List.getElem?_map, here]
    rfl
  rw [← same, distinct.idxOf_getElem place inside]
  exact List.mem_take_iff_idxOf_lt (List.mem_of_mem_take before) |>.mp before

theorem forest (contained : Contained parents relations) (distinct : (names parents).Nodup) :
    Forest parents relations where
  toContained := contained
  acyclic name cycle := by
    have descends {outer inner : String} (chain : Relation.TransGen (Contains parents) outer inner) :
        (names parents).idxOf outer < (names parents).idxOf inner := by
      induction chain with
      | single contains => exact contained.idxOf_lt distinct contains
      | tail _ contains above => exact Nat.lt_trans above (contained.idxOf_lt distinct contains)
    exact Nat.lt_irrefl _ (descends cycle)

end Contained

end DiagramMarkup
