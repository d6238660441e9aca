import DiagramMarkup.Conversion
import DiagramMarkup.Proofs.Drawing.Pictures
import DiagramMarkup.Proofs.References.Closed

/-! # Every text is converted unless there is nothing to draw

What is read can be laid out, a layout fits what it was made for, and both documents are drawn from a
layout that fits.
-/

namespace DiagramMarkup

/-! ## The roots of mind maps -/

namespace MindMap

variable {map : MindMap} {draft : Draft}

theorem root?_insertNew {key : String} (fresh : key ∉ map.nodes.keys) (topic : Topic)
    (relations : List Relation) :
    ({ nodes := map.nodes.insertNew key topic, relations } : MindMap).root? =
      map.root?.or (if topic.parent.isNone then some topic else none) := by
  simp only [root?, Table.values_insertNew fresh, List.find?_append, List.find?_cons, List.find?_nil]
  cases topic.parent <;> rfl

/-- A topic without a parent is entered only where there is no topic yet, or else there is a root
already. -/
theorem IsRooted.enter (rooted : draft.map.IsRooted) (linked : draft.IsLinked) (entry : Entry)
    (label : List Char) : (draft.enter entry label).map.IsRooted := by
  right
  unfold Draft.enter
  dsimp only
  by_cases known : s!"n{draft.map.nodes.size}" ∈ draft.map.nodes.keys
  · obtain ⟨root, found⟩ := rooted.resolve_left (Table.values_ne_nil known)
    refine ⟨root, ?_⟩
    rw [Table.insertNew, dif_pos known]
    exact found
  · rw [root?_insertNew known]
    cases found : draft.map.root? with
    | some root => exact ⟨root, rfl⟩
    | none =>
        have no_topics : draft.map.nodes.values = [] := by
          apply rooted.resolve_right
          rintro ⟨root, found'⟩
          cases found.symm.trans found'
        have no_ancestors : draft.ancestors = [] := by
          cases ancestors : draft.ancestors with
          | nil => rfl
          | cons ancestor rest =>
              have known : ancestor.name ∈ draft.map.nodes.keys := by
                apply linked.known
                rw [ancestors]
                exact List.mem_cons_self
              exact absurd no_topics (Table.values_ne_nil known)
        rw [no_ancestors]
        exact ⟨_, rfl⟩

theorem IsRooted.turn (rooted : draft.map.IsRooted) (linked : draft.IsLinked) (line : Line)
    (rest : List Line) : (MindMap.turn draft line rest).state.map.IsRooted := by
  unfold MindMap.turn
  dsimp only
  split
  · exact rooted
  · split
    · exact rooted
    · split
      · exact rooted
      · apply IsRooted.enter
        · exact rooted
        · exact linked.backTo _

theorem rooted_ofLines (lines : List Line) : (ofLines lines).1.IsRooted := by
  have both : (readAll MindMap.turn {} lines).1.IsLinked ∧
      (readAll MindMap.turn {} lines).1.map.IsRooted := by
    apply readAll_invariant (P := fun draft : Draft => draft.IsLinked ∧ draft.map.IsRooted)
    · intro draft line rest ⟨linked, rooted⟩
      exact ⟨linked.turn line rest, rooted.turn linked line rest⟩
    · exact ⟨.empty, .inl rfl⟩
  exact both.2

end MindMap

/-! ## Reading and drawing -/

theorem Content.rooted_empty (kind : Kind) : (Content.empty kind).Rooted := by
  cases kind with
  | mindMap => exact .inl rfl
  | _ => trivial

/-- Every reader gives a content that can be laid out. -/
theorem Reader.exists_rooted (kind : Kind) (lines : List Line) :
    ∃ (content : Content) (diagnostics : List Diagnostic),
      Reader.standard kind lines = .ok (content, diagnostics) ∧ content.Rooted := by
  cases kind with
  | mindMap => exact ⟨_, _, rfl, MindMap.rooted_ofLines lines⟩
  | activity =>
      obtain ⟨d, diagnostics, read, _⟩ := ActivityDiagram.exists_ofLines lines
      refine ⟨.activity d, diagnostics, ?_, trivial⟩
      simp only [Reader.standard, read]
  | classes | sequence | states | entities | deployment | useCases => exact ⟨_, _, rfl, trivial⟩

theorem Engine.exists_rooted (text : String) :
    ∃ parsed, Engine.read {} false text = .ok parsed ∧ parsed.diagram.content.Rooted := by
  have lenient (kind : Kind) (source : Source) :
      ∃ parsed, Engine.readLenient {} kind source = .ok parsed ∧
        parsed.diagram.content.Rooted := by
    unfold Engine.readLenient
    split
    · exact ⟨_, rfl, Content.rooted_empty kind⟩
    · obtain ⟨content, diagnostics, read, rooted⟩ := Reader.exists_rooted kind source.lines
      simp only [read]
      exact ⟨_, rfl, rooted⟩
  let source := Source.ofText text
  obtain ⟨parsed, read, rooted⟩ := lenient (Detection.standard.detect source) source
  refine ⟨parsed, ?_, rooted⟩
  simp only [Engine.read, Engine.readSource, Option.getD_none]
  rw [read]

section

variable {α : Type} [Scalar α]

theorem Diagram.succeeds_drawio {d : Diagram} {l : Layout α} (fits : d.content.Fits l)
    (write : α → String) (options : RenderOptions α) :
    Succeeds (d.drawio write options l (d.content.links l)) := by
  apply (Content.succeeds_graph fits).bind
  intro graph
  exact succeeds_ok _

theorem Diagram.succeeds_svg {d : Diagram} {l : Layout α} (fits : d.content.Fits l)
    (write : α → String) (settings : Settings α) :
    Succeeds (d.svg write settings l (d.content.links l)) := by
  apply (Diagram.succeeds_picture fits settings).bind
  intro picture
  exact succeeds_ok _

/-- Only a content without nodes is not rendered. -/
theorem Diagram.succeeds_render {d : Diagram} (rooted : d.content.Rooted)
    (some_node : d.content.nodeCount ≠ 0) (write : α → String) (measure : Measure α)
    (options : RenderOptions α) : Succeeds (d.render write measure options) := by
  have fits : d.content.Fits (d.content.layout options.settings measure) :=
    Content.fits_layout rooted
  obtain ⟨drawio, found⟩ := Diagram.succeeds_drawio fits write options
  obtain ⟨svg, found'⟩ := Diagram.succeeds_svg fits write options.settings
  unfold Diagram.render
  rw [Content.isEmpty, decide_eq_false some_node]
  simp only [Bool.false_eq_true, if_false, found, found']
  exact succeeds_ok _

end

/-- A text is converted, whatever the settings, unless it has no node to draw. -/
theorem convert_standard (options : RenderOptions Float) (text : String) :
    ∃ parsed, Engine.read {} false text = .ok parsed ∧
      (parsed.diagram.content.nodeCount = 0 →
        convert {} false options text = .error (.unrendered .empty)) ∧
      (parsed.diagram.content.nodeCount ≠ 0 →
        ∃ rendering, convert {} false options text = .ok rendering) := by
  obtain ⟨parsed, read, rooted⟩ := Engine.exists_rooted text
  refine ⟨parsed, read, ?_, ?_⟩
  · intro no_node
    simp only [convert, read, Diagram.render, Content.isEmpty, no_node, decide_true, if_true]
  · intro some_node
    obtain ⟨rendering, rendered⟩ := Diagram.succeeds_render rooted some_node Number.drawn
      (CellFactors.standard.measure options.settings.fontSize) options
    exact ⟨rendering, by simp only [convert, read, rendered]⟩

end DiagramMarkup
