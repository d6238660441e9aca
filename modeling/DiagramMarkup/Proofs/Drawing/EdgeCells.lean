import DiagramMarkup.Drawio.Document
import DiagramMarkup.Proofs.Drawing.Figures
import DiagramMarkup.Proofs.Drawing.Lines
import DiagramMarkup.Proofs.Drawing.Search
import Mathlib.Data.List.Forall2

/-! # The edges of a graph

Elements are drawn as vertices, and so are the texts beside a line. Every link adds one edge, between
the cells of its ends, so that a graph has one edge for every link, in their order.
-/

namespace DiagramMarkup

namespace Drawio

variable {α : Type}

def isCell : Markup α → Bool :=
  Markup.isTagged "mxCell"

/-- Whether a tree is the cell of an edge. -/
def isEdgeCell : Markup α → Bool :=
  Markup.isMarked "mxCell" "edge" "1"

theorem isCell_of_isEdgeCell (tree : Markup α) (edge : isEdgeCell tree = true) :
    isCell tree = true := by
  cases tree with
  | text s => cases edge
  | element name attributes children => exact (Bool.and_eq_true_iff.mp edge).1

namespace Cell

def isEdge : Cell α → Bool
  | edge .. => true
  | vertex .. | edgeLabel .. => false

theorem search_lineGeometry (points : List (Point α)) :
    (lineGeometry points).search isCell = [] := by
  unfold lineGeometry
  dsimp only
  split
  · rfl
  · rw [Markup.search_element_of_not rfl]
    apply Markup.searchAll_eq_nil
    intro array here
    rw [List.mem_singleton.mp here, Markup.search_element_of_not rfl]
    apply Markup.searchAll_eq_nil
    intro point here
    obtain ⟨p, _, rfl⟩ := List.mem_map.mp here
    rfl

theorem search_element (number : Nat) (cell : Cell α) :
    (cell.element number).search isCell = [cell.element number] := by
  cases cell with
  | vertex label style parent area => rfl
  | edgeLabel label line position => rfl
  | edge label style source target points =>
      apply Markup.search_element_of rfl
      rw [Markup.searchAll, search_lineGeometry]
      rfl

theorem isEdgeCell_element (number : Nat) (cell : Cell α) :
    isEdgeCell (cell.element number) = cell.isEdge := by
  cases cell <;> rfl

theorem elements_append (number : Nat) (cells more : List (Cell α)) :
    elements number (cells ++ more) =
      elements number cells ++ elements (number + cells.length) more := by
  induction cells generalizing number with
  | nil => rfl
  | cons cell cells ih =>
      simp only [List.cons_append, elements, ih, List.length_cons]
      rw [Nat.add_right_comm, Nat.add_assoc]

theorem searchAll_elements (number : Nat) (cells : List (Cell α)) :
    Markup.searchAll isCell (elements number cells) = elements number cells := by
  induction cells generalizing number with
  | nil => rfl
  | cons cell cells ih =>
      rw [elements, Markup.searchAll, search_element, ih]
      rfl

theorem filter_elements {cells : List (Cell α)} (plain : ∀ cell ∈ cells, cell.isEdge = false)
    (number : Nat) : (elements number cells).filter isEdgeCell = [] := by
  induction cells generalizing number with
  | nil => rfl
  | cons cell cells ih =>
      obtain ⟨first, rest⟩ := List.forall_mem_cons.mp plain
      rw [elements, List.filter_cons, isEdgeCell_element, first]
      exact ih rest _

end Cell

namespace Graph

variable {g next : Graph α} {cells : List (Cell α)}

/-- The cells in the document of a graph. -/
def documentCells (g : Graph α) : List (Markup α) :=
  g.element.search isCell

/-- The cells of edges in the document of a graph. -/
def edgeCells (g : Graph α) : List (Markup α) :=
  g.element.search isEdgeCell

/-- The cells of a document are those of the graph, behind the two that every document has. -/
theorem documentCells_eq (g : Graph α) :
    g.documentCells =
      .element "mxCell" [reference "id" 0] [] ::
        .element "mxCell" [reference "id" layer, reference "parent" 0] [] ::
          Cell.elements firstNumber g.cells := by
  unfold documentCells element
  dsimp only
  rw [Markup.search_element_of_not rfl, Markup.searchAll, Markup.search_element_of_not rfl,
    Markup.searchAll, Markup.searchAll, Markup.searchAll, Cell.searchAll_elements, List.append_nil]
  rfl

theorem filter_documentCells (g : Graph α) : g.documentCells.filter isEdgeCell = g.edgeCells :=
  Markup.filter_search isCell_of_isEdgeCell g.element

theorem edgeCells_eq (g : Graph α) :
    g.edgeCells = (Cell.elements firstNumber g.cells).filter isEdgeCell := by
  rw [← filter_documentCells, documentCells_eq]
  rfl

/-- A graph none of whose cells is an edge. -/
structure Unlinked (g : Graph α) : Prop where
  plain : ∀ cell ∈ g.cells, cell.isEdge = false

theorem unlinked_empty : ({} : Graph α).Unlinked :=
  ⟨fun _ member => absurd member List.not_mem_nil⟩

theorem Unlinked.add (unlinked : g.Unlinked) (plain : ∀ cell ∈ cells, cell.isEdge = false) :
    (g.add cells).Unlinked :=
  ⟨List.forall_mem_append.mpr ⟨unlinked.plain, plain⟩⟩

theorem Unlinked.addElement (unlinked : g.Unlinked) {cell : Cell α} (plain : cell.isEdge = false)
    (name : String) : (g.addElement name cell).Unlinked :=
  ⟨List.forall_mem_append.mpr ⟨unlinked.plain, List.forall_mem_singleton.mpr plain⟩⟩

theorem Unlinked.edgeCells_eq (unlinked : g.Unlinked) : g.edgeCells = [] := by
  rw [Graph.edgeCells_eq]
  exact Cell.filter_elements unlinked.plain _

theorem edgeCells_add {cell : Cell α} (edge : cell.isEdge = true)
    (plain : ∀ cell ∈ cells, cell.isEdge = false) :
    (g.add (cell :: cells)).edgeCells = g.edgeCells ++ [cell.element g.next] := by
  rw [edgeCells_eq, edgeCells_eq, add, Cell.elements_append, List.filter_append, Cell.elements,
    List.filter_cons, Cell.isEdgeCell_element, edge, Cell.filter_elements plain]
  rfl

/-- A cell of a document shows a link: it is an edge with the label of the link, between the cells of
its ends. -/
def Shows (g : Graph α) (link : Link α) (cell : Markup α) : Prop :=
  ∃ number style source target points,
    g.number link.source = .ok source ∧ g.number link.target = .ok target ∧
      cell = (Cell.edge (link.label.getD "") style source target points).element number

/-- No edge is drawn for an element. -/
theorem Unlinked.of_grows {figures : List (Figure α)} (unlinked : g.Unlinked)
    (grows : Grows figures g next) : next.Unlinked := by
  induction grows with
  | refl => exact unlinked
  | element _ _ area ih => exact ih.addElement rfl _
  | beside _ beside ih =>
      refine ih.add fun cell member => ?_
      obtain ⟨_, _, _, _, rfl, _⟩ := beside cell member
      rfl

/-- A cell shows a link under a number. -/
def ShowsAt (g : Graph α) (number : Nat) (link : Link α) (cell : Markup α) : Prop :=
  ∃ style source target points,
    g.number link.source = .ok source ∧ g.number link.target = .ok target ∧
      cell = (Cell.edge (link.label.getD "") style source target points).element number

theorem ShowsAt.of_elements_eq {number : Nat} {link : Link α} {cell : Markup α}
    (shows : g.ShowsAt number link cell) (same : next.elements = g.elements) :
    next.ShowsAt number link cell := by
  unfold ShowsAt Graph.number at *
  rwa [same]

/-- Every link adds its edge behind the others. -/
theorem GainsAll.shows {links : List (Link α)} {first : Nat} (gains : g.GainsAll links next)
    (behind : first ≤ g.next) :
    ∃ cells, next.edgeCells = g.edgeCells ++ cells ∧
      List.Forall₂ (fun link cell => ∃ number ≥ first, g.ShowsAt number link cell) links cells := by
  induction gains with
  | nil => exact ⟨[], (List.append_nil _).symm, .nil⟩
  | @cons g _ _ link _ gains _ ih =>
      have same := gains.elements_eq
      obtain ⟨style, source, target, points, texts, joins, joins', beside, rfl⟩ := gains
      have plain : ∀ cell ∈ texts, cell.isEdge = false := by
        intro cell member
        obtain ⟨_, _, rfl⟩ := beside cell member
        rfl
      have behind' : first ≤ (g.add (.edge (link.label.getD "") style source target points ::
          texts)).next := by
        refine Nat.le_trans behind ?_
        simp only [Graph.next, add, List.length_append]
        omega
      obtain ⟨cells, found, shows⟩ := ih behind'
      let cell : Cell α := .edge (link.label.getD "") style source target points
      refine ⟨cell.element g.next :: cells, ?_,
        .cons ⟨g.next, behind, _, _, _, _, joins, joins', rfl⟩ ?_⟩
      · rw [found, edgeCells_add rfl plain, List.append_assoc]
        rfl
      · refine shows.imp ?_
        rintro _ _ ⟨number, behind, shows⟩
        exact ⟨number, behind, shows.of_elements_eq same.symm⟩

end Graph

end Drawio

open Drawio Drawio.Graph

variable {α : Type} [Scalar α] {l : Layout α}

namespace Content

theorem isSome_message_of_mem_links {d : SequenceDiagram} {link : Link α}
    (member : link ∈ (sequence d).links l) : link.message.isSome := by
  obtain ⟨⟨step, y⟩, _, sent⟩ := List.mem_filterMap.mp (List.mem_filter.mp member).1
  cases step <;> cases sent
  rfl

theorem drawnLinks_links (c : Content) : c.drawnLinks (c.links l) = c.links l := by
  cases c with
  | sequence d => exact List.filter_eq_self.mpr fun _ member => isSome_message_of_mem_links member
  | _ => rfl

/-- A graph has an edge for every line, and no others. -/
theorem shows_graph_drawnLinks (c : Content) (links : List (Link α)) :
    Ensures (fun g => List.Forall₂ g.Shows (c.drawnLinks links) g.edgeCells) (c.graph l links) := by
  unfold graph
  refine (c.grows_addElements {}).bind fun g grows => ?_
  refine (c.gainsAll_addLinks links g).imp fun gains => ?_
  obtain ⟨cells, found, shows⟩ := gains.shows (Nat.zero_le _)
  rw [found, (unlinked_empty.of_grows grows).edgeCells_eq, List.nil_append]
  refine shows.imp ?_
  rintro _ _ ⟨number, _, shows⟩
  exact ⟨number, shows.of_elements_eq gains.elements_eq⟩

theorem shows_graph (c : Content) :
    Ensures (fun g => List.Forall₂ g.Shows (c.links l) g.edgeCells) (c.graph l (c.links l)) := by
  have shows := c.shows_graph_drawnLinks (l := l) (c.links l)
  rwa [drawnLinks_links] at shows

end Content

end DiagramMarkup
