import DiagramMarkup.Proofs.Conversion
import DiagramMarkup.Proofs.Drawing.EdgeCells
import DiagramMarkup.Proofs.Drawing.EdgeGroups

/-! # Two documents of one diagram

The draw.io document and the picture are drawn from the same layout and the same links. Both are drawn
or neither is, and their edges are those links.
-/

namespace DiagramMarkup

open Drawio Svg

/-! ## Mind maps without a root -/

/-- There are topics, and each has a parent. -/
def MindMap.IsRootless (map : MindMap) : Prop :=
  map.nodes.values ≠ [] ∧ ∀ topic ∈ map.nodes.values, topic.parent.isSome

section

variable {α : Type} [Scalar α] {l : Layout α}

omit [Scalar α] in
theorem Layout.not_succeeds_require (none : l.boxes.keys = []) (name : String) :
    ¬ Succeeds (l.require name) := by
  unfold require
  cases found : l.boxes.get? name with
  | none => exact not_succeeds_error _
  | some box =>
      have known := Table.mem_keys_of_get? found
      rw [none] at known
      exact absurd known List.not_mem_nil

namespace MindMap

variable {map : MindMap}

theorem root?_eq_none_iff : map.root? = none ↔ ∀ topic ∈ map.nodes.values, topic.parent.isSome := by
  simp only [root?, List.find?_eq_none, Bool.not_eq_true, Option.isNone_eq_false_iff]

theorem isRooted_iff : map.IsRooted ↔ ¬ map.IsRootless := by
  unfold IsRooted IsRootless
  rw [← root?_eq_none_iff, not_and_or, not_not, Option.eq_none_iff_forall_ne_some]
  simp only [ne_eq, not_forall, not_not]

/-- Nothing has a place where there is no root. -/
theorem IsRootless.keys_layout (rootless : map.IsRootless) (settings : Settings α)
    (measure : Measure α) : (map.layout settings measure).boxes.keys = [] := by
  simp only [layout, root?_eq_none_iff.mpr rootless.2]
  rfl

theorem IsRootless.not_succeeds_addCells (rootless : map.IsRootless) (none : l.boxes.keys = [])
    (g : Graph α) : ¬ Succeeds (map.addCells l g) := by
  refine not_succeeds_foldlM rootless.1 fun g topic => ?_
  unfold Graph.addPlaced
  cases found : l.require topic.name with
  | error fault => exact not_succeeds_error fault
  | ok b => exact absurd ⟨b, found⟩ (Layout.not_succeeds_require none topic.name)

theorem IsRootless.not_succeeds_draw (rootless : map.IsRootless) (none : l.boxes.keys = [])
    (lineHeight : α) : ¬ Succeeds (map.draw l lineHeight) :=
  not_succeeds_mapM rootless.1 fun topic =>
    not_succeeds_bind (Layout.not_succeeds_require none topic.name)

end MindMap

namespace Content

/-- A mind map that has topics and no root. -/
def IsRootless (c : Content) : Prop :=
  ∃ map, c = .mindMap map ∧ map.IsRootless

theorem rooted_iff {c : Content} : c.Rooted ↔ ¬ c.IsRootless := by
  cases c with
  | mindMap map =>
      rw [IsRootless]
      simp [Rooted, MindMap.isRooted_iff]
  | _ => simp [Rooted, IsRootless]

theorem IsRootless.keys_layout {c : Content} (rootless : c.IsRootless) (settings : Settings α)
    (measure : Measure α) : (c.layout settings measure).boxes.keys = [] := by
  obtain ⟨map, rfl, rootless⟩ := rootless
  exact Layout.keys_finish.trans (rootless.keys_layout settings measure)

end Content

end

namespace Diagram

variable {α : Type} [Scalar α]

variable {d : Diagram} {l : Layout α}

theorem not_succeeds_drawio (rootless : d.content.IsRootless) (none : l.boxes.keys = [])
    (write : α → String) (options : RenderOptions α) (links : List (Link α)) :
    ¬ Succeeds (d.drawio write options l links) := by
  obtain ⟨map, same, rootless⟩ := rootless
  refine not_succeeds_bind (not_succeeds_bind ?_)
  rw [same]
  exact rootless.not_succeeds_addCells none {}

theorem not_succeeds_svg (rootless : d.content.IsRootless) (none : l.boxes.keys = [])
    (write : α → String) (settings : Settings α) (links : List (Link α)) :
    ¬ Succeeds (d.svg write settings l links) := by
  obtain ⟨map, same, rootless⟩ := rootless
  refine not_succeeds_bind (not_succeeds_next fun lines => not_succeeds_bind ?_)
  rw [same]
  exact rootless.not_succeeds_draw none _

/-- The draw.io document of a graph. -/
def document (write : α → String) (options : RenderOptions α) (g : Graph α) : String :=
  let header : Drawio.Header := ⟨options.page, Time.stamp options.modified⟩
  String.ofList <|
    if options.packed then header.printPacked (Drawio.pack (String.ofList (g.print write)))
    else header.printOpen write g

/-- The documents of a diagram show the same links of a layout. -/
structure Agrees (write : α → String) (options : RenderOptions α) (l : Layout α) (d : Diagram) :
    Prop where
  /-- The links are the connections that have a place at both ends, in their order. -/
  links : (d.content.links l).map Link.toRelation =
    (d.content.connections.filter (Relation.isPlaced l.boxes.keys)).map Relation.drawn
  drawio : Succeeds (d.drawio write options l (d.content.links l)) ↔ ¬ d.content.IsRootless
  svg : Succeeds (d.svg write options.settings l (d.content.links l)) ↔ ¬ d.content.IsRootless
  /-- The edges of the draw.io document are the cells of the links, one for each. -/
  cells : ∀ text, d.drawio write options l (d.content.links l) = .ok text →
    ∃ g : Graph α, text = document write options g ∧
      List.Forall₂ g.Shows (d.content.links l) g.edgeCells
  /-- The edges of the picture are the groups of the links, one for each. -/
  groups : ∀ text, d.svg write options.settings l (d.content.links l) = .ok text →
    ∃ picture : Markup α, text = String.ofList (picture.print write) ∧
      (d.content.links l).mapM (Link.draw l (options.settings.fontSize * 1.2)) =
        .ok (picture.search isEdgeGroup)

/-- Whatever the diagram, the settings and the measure of texts, its documents agree. -/
theorem agrees_layout (write : α → String) (options : RenderOptions α) (measure : Measure α)
    (d : Diagram) : d.Agrees write options (d.content.layout options.settings measure) := by
  have fits (rooted : ¬ d.content.IsRootless) :
      d.content.Fits (d.content.layout options.settings measure) :=
    Content.fits_layout (Content.rooted_iff.mpr rooted)
  refine { links := ?links, drawio := ?drawio, svg := ?svg, cells := ?cells, groups := ?groups }
  case links => exact Content.toRelation_links Content.timed_layout
  case drawio =>
    constructor
    · intro drawn none
      exact not_succeeds_drawio none (none.keys_layout _ _) write options _ drawn
    · intro rooted
      exact Diagram.succeeds_drawio (fits rooted) write options
  case svg =>
    constructor
    · intro drawn none
      exact not_succeeds_svg none (none.keys_layout _ _) write options.settings _ drawn
    · intro rooted
      exact Diagram.succeeds_svg (fits rooted) write options.settings
  case cells =>
    exact d.content.shows_graph.bind fun g shows => ensures_ok ⟨g, rfl, shows⟩
  case groups =>
    exact (d.edges_picture options.settings _).bind fun picture edges =>
      ensures_ok ⟨picture, rfl, edges⟩

end Diagram

end DiagramMarkup
