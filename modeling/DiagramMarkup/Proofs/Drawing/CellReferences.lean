import DiagramMarkup.Proofs.Drawing.Agreement

/-! # References between cells

The cells of a document are numbered in order. A cell lies in the layer or in an earlier cell, and an
edge leads from one earlier cell to another: those that its link names.
-/

namespace DiagramMarkup

open Drawio

variable {α : Type}

namespace Markup

/-- The value of the first attribute of a name. -/
def attribute? (name : String) : Markup α → Option (List (Piece α))
  | element _ attributes _ => (attributes.find? fun a => a.name = name).map Attribute.value
  | text _ => none

/-- A number as the value of an attribute. -/
def numeral (number : Nat) : List (Piece α) :=
  [.text (toString number)]

end Markup

namespace Drawio

/-! ## Cells -/

namespace Cell

/-- The number of the cell that a cell lies in. -/
def parent : Cell α → Nat
  | vertex _ _ parent _ => parent
  | edge .. => layer
  | edgeLabel _ line _ => line

theorem attribute?_id (number : Nat) (cell : Cell α) :
    (cell.element number).attribute? "id" = some (Markup.numeral number) := by
  cases cell <;> rfl

theorem attribute?_parent (number : Nat) (cell : Cell α) :
    (cell.element number).attribute? "parent" = some (Markup.numeral cell.parent) := by
  cases cell <;> rfl

theorem getElem?_elements (number index : Nat) (cells : List (Cell α)) :
    (elements number cells)[index]? = cells[index]?.map fun cell => cell.element (number + index) := by
  induction cells generalizing number index with
  | nil => rfl
  | cons cell cells ih =>
      cases index with
      | zero => rfl
      | succ index =>
          rw [elements, List.getElem?_cons_succ, List.getElem?_cons_succ, ih, Nat.add_right_comm,
            Nat.add_assoc]

end Cell

/-! ## Graphs -/

namespace Graph

variable {figures : List (Figure α)} {g next : Graph α}

/-- A number is that of a cell that is drawn for a name. -/
def IsDrawnFor (figures : List (Figure α)) (g : Graph α) (name : String) (number : Nat) : Prop :=
  ∃ figure area index, figure ∈ figures ∧ figure.name = name ∧ number = firstNumber + index ∧
    g.cells[index]? = some (figure.cell area)

theorem IsDrawnFor.of_kept {name : String} {number : Nat} (drawn : IsDrawnFor figures g name number)
    (kept : g.cells <+: next.cells) : IsDrawnFor figures next name number := by
  obtain ⟨figure, area, index, known, named, same, here⟩ := drawn
  exact ⟨figure, area, index, known, named, same, getElem?_of_kept kept here⟩

theorem IsDrawnFor.lt_next {name : String} {number : Nat}
    (drawn : IsDrawnFor figures g name number) : number < g.next := by
  obtain ⟨_, _, index, _, _, rfl, here⟩ := drawn
  have inside := (List.getElem?_eq_some_iff.mp here).1
  exact Nat.add_lt_add_left inside firstNumber

/-- A graph whose cells refer to earlier ones, and in which the cell of a name is drawn for it. -/
structure Ordered (figures : List (Figure α)) (g : Graph α) : Prop where
  parent : ∀ (index : Nat) (cell : Cell α), g.cells[index]? = some cell →
    cell.parent = layer ∨ firstNumber ≤ cell.parent ∧ cell.parent < firstNumber + index
  drawn : ∀ name number, g.number name = .ok number → IsDrawnFor figures g name number

theorem ordered_empty : Ordered figures ({} : Graph α) where
  parent _ _ none := nomatch none
  drawn _ _ none := nomatch none

theorem Ordered.add {cells : List (Cell α)} (ordered : Ordered figures g)
    (parent : ∀ (index : Nat) (cell : Cell α), cells[index]? = some cell →
      cell.parent = layer ∨ firstNumber ≤ cell.parent ∧ cell.parent < g.next + index) :
    Ordered figures (g.add cells) where
  parent index cell here := by
    unfold Graph.add at here
    rw [List.getElem?_append] at here
    split at here
    · exact ordered.parent index cell here
    · have earlier := parent _ cell here
      unfold Graph.next at earlier
      omega
  drawn name number found := (ordered.drawn name number found).of_kept (List.prefix_append _ _)

theorem Ordered.addElement {figure : Figure α} (ordered : Ordered figures g) (known : figure ∈ figures)
    (area : Area α) : Ordered figures (g.addElement figure.name (figure.cell area)) where
  parent := by
    have added : Ordered figures (g.add [figure.cell area]) := by
      refine ordered.add fun index cell here => .inl ?_
      rw [List.mem_singleton.mp (List.mem_of_getElem? here)]
      rfl
    exact added.parent
  drawn name number found := by
    by_cases same : name = figure.name
    · subst same
      rw [number_addElement_self] at found
      cases found
      exact ⟨figure, area, g.cells.length, known, rfl, rfl, List.getElem?_concat_length⟩
    · rw [number_addElement_of_ne same] at found
      exact (ordered.drawn name number found).of_kept (List.prefix_append _ _)

theorem Ordered.of_grows (ordered : Ordered figures g) (grows : Grows figures g next) :
    Ordered figures next := by
  induction grows with
  | refl => exact ordered
  | element _ known area ih => exact ih.addElement known area
  | beside _ beside ih =>
      refine ih.add fun index cell here => ?_
      obtain ⟨_, _, parent, _, rfl, earlier⟩ := beside cell (List.mem_of_getElem? here)
      exact earlier.imp_right fun ⟨first, drawn⟩ => ⟨first, Nat.lt_add_right index drawn⟩

/-- The texts beside a line lie in its edge, which comes before them. -/
theorem Ordered.of_gainsAll {links : List (Link α)} (ordered : Ordered figures g)
    (gains : g.GainsAll links next) : Ordered figures next := by
  induction gains with
  | nil => exact ordered
  | cons gains _ ih =>
      obtain ⟨_, _, _, _, texts, _, _, beside, rfl⟩ := gains
      refine ih (ordered.add fun index cell here => ?_)
      cases index with
      | zero =>
          cases here
          exact .inl rfl
      | succ index =>
          obtain ⟨_, _, rfl⟩ := beside cell (List.mem_of_getElem? here)
          exact .inr ⟨Nat.le_add_right _ _, Nat.lt_add_of_pos_right (Nat.succ_pos index)⟩

end Graph

/-! ## Documents -/

open Markup

/-- An attribute of an edge refers to a cell that is drawn for a name, and that comes before the edge. -/
def EndsAt (figures : List (Figure α)) (cells : List (Markup α)) (edge : Markup α) (number : Nat)
    (key name : String) : Prop :=
  ∃ vertex figure area, edge.attribute? key = some (numeral vertex) ∧ vertex < number ∧
    figure ∈ figures ∧ figure.name = name ∧
      cells[vertex]? = some ((figure.cell area).element vertex)

/-- What the cells of a document refer to, given the figures and the links that are drawn. -/
structure References (figures : List (Figure α)) (links : List (Link α)) (cells : List (Markup α)) :
    Prop where
  /-- The cells are numbered in order, from zero on. -/
  ids : ∀ (number : Nat) (cell : Markup α), cells[number]? = some cell →
    cell.attribute? "id" = some (numeral number)
  /-- All but the first two lie in the layer or in an earlier cell. -/
  parents : ∀ (number : Nat) (cell : Markup α), firstNumber ≤ number → cells[number]? = some cell →
    ∃ parent, cell.attribute? "parent" = some (numeral parent) ∧
      (parent = layer ∨ firstNumber ≤ parent ∧ parent < number)
  /-- There is one edge for every link, between the cells of its ends. -/
  edges : List.Forall₂
    (fun link edge => ∃ number, edge.attribute? "id" = some (numeral number) ∧
      edge.attribute? "value" = some [.text (link.label.getD "")] ∧
        EndsAt figures cells edge number "source" link.source ∧
          EndsAt figures cells edge number "target" link.target)
    links (cells.filter isEdgeCell)

namespace Graph

variable {figures : List (Figure α)} {links : List (Link α)} {g next : Graph α}

theorem getElem?_documentCells (g : Graph α) (index : Nat) :
    g.documentCells[firstNumber + index]? =
      g.cells[index]?.map fun cell => cell.element (firstNumber + index) := by
  rw [documentCells_eq, firstNumber, Nat.add_comm, List.getElem?_cons_succ, List.getElem?_cons_succ,
    Cell.getElem?_elements]
  simp only [Nat.add_comm]

/-- A document refers to the cells that its graph refers to. -/
theorem Ordered.references (ordered : Ordered figures g) (unlinked : g.Unlinked)
    (gains : g.GainsAll links next) : References figures links next.documentCells := by
  have ordered' := ordered.of_gainsAll gains
  constructor
  case ids =>
    intro number cell here
    by_cases behind : firstNumber ≤ number
    · obtain ⟨index, rfl⟩ := Nat.exists_eq_add_of_le behind
      rw [getElem?_documentCells] at here
      obtain ⟨drawn, _, rfl⟩ := Option.map_eq_some_iff.mp here
      exact drawn.attribute?_id _
    · -- These are the two cells that every document has.
      rw [documentCells_eq] at here
      unfold firstNumber at behind
      obtain rfl | rfl : number = 0 ∨ number = 1 := by omega
      · cases here
        rfl
      · cases here
        rfl
  case parents =>
    intro number cell behind here
    obtain ⟨index, rfl⟩ := Nat.exists_eq_add_of_le behind
    rw [getElem?_documentCells] at here
    obtain ⟨drawn, inside, rfl⟩ := Option.map_eq_some_iff.mp here
    exact ⟨drawn.parent, drawn.attribute?_parent _, ordered'.parent index drawn inside⟩
  case edges =>
    obtain ⟨cells, found, shows⟩ := gains.shows (Nat.le_refl g.next)
    rw [filter_documentCells, found, unlinked.edgeCells_eq, List.nil_append]
    refine shows.imp ?_
    rintro link edge ⟨number, behind, style, source, target, points, source_found, target_found, rfl⟩
    have ends {key name : String} {vertex : Nat} {edge : Markup α}
        (found : g.number name = .ok vertex) (refers : edge.attribute? key = some (numeral vertex)) :
        EndsAt figures next.documentCells edge number key name := by
      have drawn := ordered.drawn name vertex found
      have earlier := Nat.lt_of_lt_of_le drawn.lt_next behind
      obtain ⟨figure, area, index, known, named, rfl, here⟩ := drawn.of_kept gains.kept
      refine ⟨_, figure, area, refers, earlier, known, named, ?_⟩
      rw [getElem?_documentCells, here]
      rfl
    exact ⟨number, rfl, rfl, ends source_found rfl, ends target_found rfl⟩

end Graph

end Drawio

/-- Whatever the layout and the links of a diagram, if its draw.io document is drawn then its cells are
numbered in order and refer to the right ones. -/
theorem Diagram.references_drawio [Scalar α] {write : α → String} {options : RenderOptions α}
    {l : Layout α} {links : List (Link α)} {d : Diagram} {text : String}
    (drawn : d.drawio write options l links = .ok text) :
    ∃ g, d.content.graph l links = .ok g ∧ text = document write options g ∧
      References (d.content.figures l) (d.content.drawnLinks links) g.documentCells := by
  have references : Ensures
      (fun g => References (d.content.figures l) (d.content.drawnLinks links) g.documentCells)
      (d.content.graph l links) := by
    unfold Content.graph
    refine (d.content.grows_addElements {}).bind fun g grows => ?_
    refine (d.content.gainsAll_addLinks links g).imp fun gains => ?_
    exact (Graph.ordered_empty.of_grows grows).references (Graph.unlinked_empty.of_grows grows) gains
  unfold drawio at drawn
  cases found : d.content.graph l links with
  | error fault =>
      rw [found] at drawn
      cases drawn
  | ok g =>
      rw [found] at drawn
      cases drawn
      exact ⟨g, rfl, rfl, references g found⟩

/-- A note at a class, on a line with a text at its start. -/
theorem Diagram.references_drawio_note :
    let d : Diagram :=
      { content := .classes
          { classes := .ofList [("A", .bare "A" .plain)], notes := [⟨"n", "hi", some "A"⟩] } }
    let l : Layout Rat :=
      { Layout.empty with boxes := .ofList [("A", ⟨0, 0, 40, 40⟩), ("n", ⟨80, 0, 40, 40⟩)] }
    let links : List (Link Rat) :=
      [{ source := "n", target := "A", kind := .note, sourceLabel := some "1", dashed := true }]
    let options : RenderOptions Rat := { settings := .standard, modified := 0 }
    ∃ text, d.drawio (fun _ => "0") options l links = .ok text ∧
      ∃ g, d.content.graph l links = .ok g ∧ text = document (fun _ => "0") options g ∧
        References (d.content.figures l) (d.content.drawnLinks links) g.documentCells :=
  ⟨_, rfl, references_drawio rfl⟩

end DiagramMarkup
