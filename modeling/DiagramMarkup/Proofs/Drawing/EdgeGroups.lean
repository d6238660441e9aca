import DiagramMarkup.Proofs.Drawing.Links
import DiagramMarkup.Proofs.Drawing.Search
import DiagramMarkup.Proofs.Success
import DiagramMarkup.Svg.Document

/-! # The edges of a picture

Every link is drawn as a group of its own. No other part of a picture, at whatever depth, is such a
group, so that the edges of a picture are its links, in their order.
-/

namespace DiagramMarkup

namespace Svg

variable {α : Type}

/-- Whether a tree is the group of an edge. -/
def isEdgeGroup : Markup α → Bool :=
  Markup.isMarked "g" "class" "edge"

/-- A tree that neither is nor holds the group of an edge. -/
def Plain (tree : Markup α) : Prop :=
  tree.search isEdgeGroup = []

structure AllPlain (trees : List (Markup α)) : Prop where
  each : ∀ tree ∈ trees, Plain tree

variable {tag name : String} {attributes : List (Markup.Attribute α)} {tree : Markup α}
  {trees others : List (Markup α)}

namespace AllPlain

theorem nil : AllPlain ([] : List (Markup α)) :=
  ⟨fun _ member => absurd member List.not_mem_nil⟩

theorem cons (first : Plain tree) (rest : AllPlain trees) : AllPlain (tree :: trees) :=
  ⟨List.forall_mem_cons.mpr ⟨first, rest.each⟩⟩

theorem singleton (only : Plain tree) : AllPlain [tree] :=
  .cons only .nil

theorem append (plain : AllPlain trees) (plain' : AllPlain others) : AllPlain (trees ++ others) :=
  ⟨List.forall_mem_append.mpr ⟨plain.each, plain'.each⟩⟩

theorem map {β : Type} {f : β → Markup α} (items : List β) (each : ∀ x, Plain (f x)) :
    AllPlain (items.map f) :=
  ⟨List.forall_mem_map.mpr fun x _ => each x⟩

theorem searchAll_eq (plain : AllPlain trees) : Markup.searchAll isEdgeGroup trees = [] :=
  Markup.searchAll_eq_nil plain.each

end AllPlain

namespace Plain

theorem shape (other : decide (tag = "g") = false) (inside : AllPlain trees) :
    Plain (.element tag attributes trees) := by
  have plain : isEdgeGroup (.element tag attributes trees) = false := by
    simp only [isEdgeGroup, Markup.isMarked, other, Bool.false_and]
  exact (Markup.search_element_of_not plain).trans inside.searchAll_eq

theorem leaf (other : decide (tag = "g") = false) : Plain (.element tag attributes []) :=
  .shape other .nil

theorem group (other : decide (name = "edge") = false) (inside : AllPlain trees) :
    Plain (Svg.group name trees) := by
  have plain : isEdgeGroup (Svg.group name trees) = false := by
    simp only [isEdgeGroup, Markup.isMarked, Svg.group, List.any_cons, List.any_nil,
      Markup.Attribute.hasText, Markup.Attribute.text, other, Bool.and_false, Bool.or_self]
  exact (Markup.search_element_of_not plain).trans inside.searchAll_eq

end Plain

/-! ## Shapes -/

section

variable [Scalar α]

theorem plain_textBlock (x y : α) (text : String) (anchor : Anchor) (lineHeight : α)
    (attributes : List (Markup.Attribute α)) :
    Plain (textBlock x y text anchor lineHeight attributes) :=
  .shape rfl (.map _ fun _ => .shape rfl (.singleton rfl))

theorem plain_caption (b : Box α) (text : String) (lineHeight : α) :
    Plain (caption b text lineHeight) :=
  plain_textBlock ..

theorem plain_figure (b : Box α) : Plain (figure b) :=
  have limbs := AllPlain.cons (.leaf rfl) (.cons (.leaf rfl) (.singleton (.leaf rfl)))
  have parts := AllPlain.cons (.leaf rfl) (.cons (.leaf rfl) limbs)
  (Markup.search_element_of_not rfl).trans parts.searchAll_eq

theorem plain_note (b : Box α) (text : String) (lineHeight : α) : Plain (note b text lineHeight) :=
  .group rfl (.cons (.leaf rfl) (.cons (.leaf rfl) (.singleton (plain_textBlock ..))))

theorem plain_cylinder (b : Box α) (cap : α) : AllPlain (cylinder b cap) :=
  .cons (.leaf rfl) (.singleton (.leaf rfl))

theorem plain_groupFrame (lineHeight : α) (f : Frame α) : Plain (groupFrame lineHeight f) :=
  .group rfl (.cons (.leaf rfl) (.singleton (plain_textBlock ..)))

theorem plain_laneFrame (title lineHeight : α) (f : Frame α) :
    Plain (laneFrame title lineHeight f) :=
  .group rfl (.cons (.leaf rfl) (.cons (.leaf rfl) (.singleton (plain_textBlock ..))))

omit [Scalar α] in
theorem plain_marker (id width height x y units : String) (shape : List (Markup.Attribute α)) :
    Plain (marker id width height x y units shape) :=
  .shape rfl (.singleton (.leaf rfl))

omit [Scalar α] in
theorem plain_markers : Plain (markers : Markup α) :=
  .shape rfl (.cons (plain_marker ..) (.cons (plain_marker ..) (.cons (plain_marker ..)
    (.cons (plain_marker ..) (.singleton (plain_marker ..))))))

end

end Svg

open Svg

variable {α : Type} [Scalar α] {l : Layout α}

/-! ## Elements -/

theorem Rows.plain_shapesFrom (b : Box α) (stroke : String) (lineHeight : α)
    (items : List (Option String)) (y : α) : AllPlain (shapesFrom b stroke lineHeight y items) := by
  induction items generalizing y with
  | nil => exact .nil
  | cons item items ih =>
      cases item with
      | none => exact .cons (.leaf rfl) (ih _)
      | some row => exact .cons (plain_textBlock ..) (ih _)

theorem Rows.plain_draw (rows : Rows) (b : Box α) (heading : String) (title : α) (colors : Colors)
    (lineHeight : α) : AllPlain (rows.draw b heading title colors lineHeight) :=
  .cons (.leaf rfl) (.cons (.leaf rfl) (.cons (plain_textBlock ..) (plain_shapesFrom ..)))

theorem StateNode.plain_shapes (state : StateNode) (b : Box α) (lineHeight : α) :
    AllPlain (state.shapes b lineHeight) := by
  unfold shapes
  split
  · exact .singleton (.leaf rfl)
  · exact .cons (.leaf rfl) (.singleton (.leaf rfl))
  · exact .singleton (.leaf rfl)
  · exact .singleton (.leaf rfl)
  · exact .singleton (.leaf rfl)
  · refine .cons (.leaf rfl) ?_
    split
    · exact .singleton (plain_caption ..)
    · exact .cons (plain_textBlock ..) (.cons (.leaf rfl) (.singleton (plain_textBlock ..)))

theorem Archetype.plain_shapes (archetype : Archetype) (b : Box α) :
    AllPlain (archetype.shapes b) := by
  unfold shapes
  split
  case h_1 | h_2 | h_3 => exact plain_cylinder b 8
  case h_6 => exact .cons (.leaf rfl) (.singleton (.leaf rfl))
  all_goals exact .singleton (.leaf rfl)

theorem UseCaseNode.plain_shapes (node : UseCaseNode) (b : Box α) (lineHeight : α) :
    AllPlain (node.shapes b lineHeight) := by
  unfold shapes
  split
  · exact .cons (plain_figure b) (.singleton (plain_textBlock ..))
  · exact .cons (.leaf rfl) (.singleton (plain_caption ..))

theorem Topic.plain_shapes (topic : Topic) (b : Box α) (lineHeight : α) :
    AllPlain (topic.shapes b lineHeight) := by
  refine .append ?_ (.singleton (plain_caption ..))
  split
  · exact .singleton (.leaf rfl)
  · split
    · exact .nil
    · exact .singleton (.leaf rfl)

theorem ActivityNode.plain_shapes (node : ActivityNode) (b : Box α) (lineHeight : α) :
    AllPlain (node.shapes b lineHeight) := by
  unfold shapes
  split
  · exact .singleton (.leaf rfl)
  · exact .cons (.leaf rfl) (.singleton (.leaf rfl))
  · exact .cons (.leaf rfl) (.singleton (plain_caption ..))
  · exact .cons (.leaf rfl) (.singleton (plain_caption ..))
  · exact .singleton (.leaf rfl)
  · exact .singleton (.leaf rfl)
  · exact .singleton (.leaf rfl)
  · exact .nil

theorem Participant.plain_shapes (p : Participant) (b : Box α) (lineHeight : α) :
    AllPlain (p.shapes b lineHeight) := by
  unfold shapes
  split
  · exact .cons (plain_figure _) (.singleton (plain_textBlock ..))
  · exact .cons (.leaf rfl) (.singleton (plain_caption ..))

omit [Scalar α] in
theorem plain_mapM_require {β : Type} (items : List β) (naming : β → String) (name : String)
    {shapes : β → Box α → List (Markup α)} (other : decide (name = "edge") = false)
    (inside : ∀ x b, AllPlain (shapes x b)) :
    Ensures AllPlain (items.mapM fun x => do
      let b ← l.require (naming x)
      return group name (shapes x b)) := by
  refine (ensures_mapM fun x _ => ?_).imp .mk
  refine (ensures_found (l.require (naming x))).bind fun b _ => ?_
  exact ensures_ok (.group other (inside x b))

theorem Note.plain_draw (notes : List Note) (lineHeight : α) :
    Ensures AllPlain (Note.draw l lineHeight notes) := by
  refine (ensures_mapM fun note _ => ?_).imp .mk
  refine (ensures_found (l.require note.name)).bind fun b _ => ?_
  exact ensures_ok (plain_note b note.text lineHeight)

theorem ActivityNode.plain_draw (node : ActivityNode) (lineHeight : α) :
    Ensures AllPlain (node.draw l lineHeight) := by
  unfold ActivityNode.draw
  refine (ensures_found (l.require node.name)).bind fun b _ => ?_
  have shape : Plain (group "node activity" (node.shapes b lineHeight)) :=
    .group rfl (node.plain_shapes b lineHeight)
  dsimp only
  split
  · refine (ensures_found (l.require node.noteName)).bind fun below _ => ?_
    exact ensures_ok (.cons shape (.singleton (plain_note ..)))
  · exact ensures_ok (.singleton shape)

namespace SequenceDiagram

theorem plain_drawNotes (lineHeight : α) (steps : List Step) (notes : Nat) :
    AllPlain (drawNotes l lineHeight notes steps) := by
  induction steps generalizing notes with
  | nil => exact .nil
  | cons step steps ih =>
      cases step with
      | note note => exact .append (.map _ fun _ => plain_note ..) (ih _)
      | message message => exact ih _
      | divider label => exact ih _

theorem plain_divider (t : Timeline α) (lineHeight y : α) (text : String) :
    AllPlain (divider t lineHeight y text) := by
  refine .cons (.leaf rfl) ?_
  split
  · exact .nil
  · exact .singleton (plain_textBlock ..)

theorem plain_backdrop (lineHeight : α) (d : SequenceDiagram) :
    AllPlain (d.backdrop l lineHeight) := by
  unfold backdrop
  split
  · exact .nil
  · refine .append ⟨?_⟩ ⟨?_⟩
    · intro tree member
      obtain ⟨p, _, drawn⟩ := List.mem_filterMap.mp member
      obtain ⟨b, _, rfl⟩ := Option.map_eq_some_iff.mp drawn
      exact .leaf rfl
    · intro tree member
      obtain ⟨⟨step, y⟩, _, here⟩ := List.mem_flatMap.mp member
      cases step with
      | divider text => exact (plain_divider ..).each tree here
      | message message => exact absurd here List.not_mem_nil
      | note note => exact absurd here List.not_mem_nil

end SequenceDiagram

namespace Content

theorem plain_drawElements (c : Content) (lineHeight : α) :
    Ensures AllPlain (c.drawElements l lineHeight) := by
  have with_notes {drawn : Except LayoutFault (List (Markup α))} (nodes : Ensures AllPlain drawn)
      (notes : List Note) :
      Ensures AllPlain (do return (← drawn) ++ (← Note.draw l lineHeight notes)) := by
    refine nodes.bind fun drawn plain => ?_
    refine (Note.plain_draw notes lineHeight).bind fun notes plain' => ?_
    exact ensures_ok (plain.append plain')
  cases c with
  | classes d =>
      refine with_notes (plain_mapM_require _ _ "node class" rfl fun _ _ => ?_) d.notes
      exact Rows.plain_draw ..
  | states d =>
      refine with_notes (plain_mapM_require _ _ "node state" rfl fun _ _ => ?_) d.notes
      exact StateNode.plain_shapes ..
  | sequence d =>
      have heads := plain_mapM_require (l := l) d.participants.values Participant.name
        "node participant" rfl fun p b => p.plain_shapes b lineHeight
      refine heads.bind fun heads plain => ?_
      exact ensures_ok (plain.append (SequenceDiagram.plain_drawNotes ..))
  | mindMap d => exact plain_mapM_require _ _ "node mindmap" rfl fun _ _ => Topic.plain_shapes ..
  | entities d => exact plain_mapM_require _ _ "node entity" rfl fun _ _ => Rows.plain_draw ..
  | deployment d =>
      refine with_notes (plain_mapM_require _ _ "node deployment" rfl fun _ _ => ?_) d.notes
      exact .append (Archetype.plain_shapes ..) (.singleton (plain_caption ..))
  | useCases d =>
      refine with_notes (plain_mapM_require _ _ "node usecase" rfl fun _ _ => ?_) d.notes
      exact UseCaseNode.plain_shapes ..
  | activity d =>
      have nodes : Ensures (fun parts => ∀ trees ∈ parts, AllPlain trees)
          (d.visibleNodes.mapM (ActivityNode.draw l lineHeight)) :=
        ensures_mapM fun node _ => node.plain_draw lineHeight
      refine nodes.bind fun parts plain => ?_
      refine ensures_ok ⟨fun tree member => ?_⟩
      obtain ⟨trees, part, here⟩ := List.mem_flatten.mp member
      exact (plain trees part).each tree here

theorem plain_backdrop (c : Content) (lineHeight : α) : AllPlain (c.backdrop l lineHeight) := by
  cases c with
  | sequence d => exact d.plain_backdrop lineHeight
  | classes d | states d | mindMap d | entities d | deployment d | useCases d | activity d =>
      exact .nil

end Content

/-! ## Links -/

namespace Link

variable {link : Link α}

theorem plain_labelAt (x y : α) (label : Option String) (anchor : Anchor) (lineHeight : α) :
    AllPlain (labelAt x y label anchor lineHeight) :=
  .map _ fun _ => plain_textBlock ..

theorem plain_shapes (source target : Box α) (lineHeight : α) :
    AllPlain (link.shapes source target lineHeight) := by
  unfold shapes
  split
  · unfold messageShapes
    split
    · exact .cons (.leaf rfl) (plain_labelAt ..)
    · exact .cons (.leaf rfl) (plain_labelAt ..)
  · split
    · exact .cons (.leaf rfl) (plain_labelAt ..)
    · refine .cons (.leaf rfl) (.append (.append ?_ ?_) ?_)
      all_goals exact plain_labelAt ..

/-- The line of a link is one edge. -/
theorem search_draw (lineHeight : α) :
    Ensures (fun tree => tree.search isEdgeGroup = [tree]) (link.draw l lineHeight) := by
  unfold draw
  refine (ensures_found (l.require link.source)).bind fun source _ => ?_
  refine (ensures_found (l.require link.target)).bind fun target _ => ?_
  exact ensures_ok (Markup.search_element_of rfl (plain_shapes source target lineHeight).searchAll_eq)

end Link

/-- The edges of a picture are its links, drawn one after the other. -/
theorem Diagram.edges_picture (d : Diagram) (settings : Settings α) (links : List (Link α)) :
    Ensures (fun picture => links.mapM (Link.draw l (settings.fontSize * 1.2)) =
      .ok (picture.search isEdgeGroup)) (d.picture settings l links) := by
  unfold picture
  refine (ensures_found (links.mapM _)).bind fun lines drawn => ?_
  refine (d.content.plain_drawElements _).bind fun elements plain => ?_
  have edges : Markup.searchAll isEdgeGroup lines = lines :=
    Markup.searchAll_eq_self (ensures_mapM (fun link _ => link.search_draw _) lines drawn)
  have title : AllPlain (d.title.toList.map fun text =>
      (.element "title" [] [.text text] : Markup α)) :=
    .map _ fun text => .shape rfl (.singleton rfl)
  have grounded : Plain (ground : Markup α) := .leaf rfl
  have groups := AllPlain.map l.groups (plain_groupFrame (settings.fontSize * 1.2))
  have lanes := AllPlain.map l.lanes (plain_laneFrame settings.laneTitle (settings.fontSize * 1.2))
  have frames := (title.append (.cons plain_markers (.cons grounded groups))).append lanes
  have behind := frames.append (d.content.plain_backdrop (l := l) (settings.fontSize * 1.2))
  apply ensures_ok
  rw [drawn, Markup.search_element_of_not rfl, Markup.searchAll_append, Markup.searchAll_append,
    plain.searchAll_eq, edges, List.append_nil]
  exact congrArg Except.ok (congrArg (· ++ lines) behind.searchAll_eq).symm

end DiagramMarkup
