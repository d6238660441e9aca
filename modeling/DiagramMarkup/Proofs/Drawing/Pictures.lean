import DiagramMarkup.Proofs.Drawing.Cells
import DiagramMarkup.Svg.Document

/-! # Pictures of layouts that fit

A picture looks up the boxes of elements and of the ends of links, and nothing else.
-/

namespace DiagramMarkup

variable {α β : Type} [Scalar α] {l : Layout α}

omit [Scalar α] in
theorem Layout.succeeds_mapM_require {γ : Type} {items : List β} {naming : β → String}
    (known : items.map naming ⊆ l.boxes.keys) (draw : β → Box α → γ) :
    Succeeds (items.mapM fun x => do return draw x (← l.require (naming x))) := by
  apply succeeds_mapM
  intro x member
  apply (succeeds_require (known (List.mem_map_of_mem member))).bind
  intro box
  exact succeeds_ok (draw x box)

theorem Note.succeeds_draw {notes : List Note} (known : notes.map Note.name ⊆ l.boxes.keys)
    (lineHeight : α) : Succeeds (Note.draw l lineHeight notes) :=
  Layout.succeeds_mapM_require known fun note box => Svg.note box note.text lineHeight

theorem ActivityNode.succeeds_draw {node : ActivityNode} (known : node.names ⊆ l.boxes.keys)
    (lineHeight : α) : Succeeds (node.draw l lineHeight) := by
  obtain ⟨node_known, note_known⟩ := List.cons_subset.mp known
  apply (Layout.succeeds_require node_known).bind
  intro box
  cases note : node.note with
  | none => exact succeeds_ok _
  | some text =>
      rw [note] at note_known
      apply (Layout.succeeds_require (List.cons_subset.mp note_known).1).bind
      intro box
      exact succeeds_ok _

theorem Link.succeeds_draw {link : Link α} (source : link.source ∈ l.boxes.keys)
    (target : link.target ∈ l.boxes.keys) (lineHeight : α) : Succeeds (link.draw l lineHeight) := by
  apply (Layout.succeeds_require source).bind
  intro first
  apply (Layout.succeeds_require target).bind
  intro second
  exact succeeds_ok _

namespace Content

theorem succeeds_drawElements {c : Content} (fits : c.Fits l) (lineHeight : α) :
    Succeeds (c.drawElements l lineHeight) := by
  have placed := fits.placed
  have with_notes {notes : List Note} {drawn : Except LayoutFault (List (Markup α))}
      (nodes : Succeeds drawn) (known : notes.map Note.name ⊆ l.boxes.keys) :
      Succeeds (do return (← drawn) ++ (← Note.draw l lineHeight notes)) := by
    apply nodes.bind
    intro nodes
    apply (Note.succeeds_draw known lineHeight).bind
    intro notes
    exact succeeds_ok _
  cases c with
  | classes d =>
      obtain ⟨nodes, notes⟩ := List.append_subset.mp placed
      exact with_notes (Layout.succeeds_mapM_require nodes _) notes
  | sequence d =>
      apply (Layout.succeeds_mapM_require placed _).bind
      intro heads
      exact succeeds_ok _
  | states d =>
      obtain ⟨nodes, notes⟩ := List.append_subset.mp placed
      exact with_notes (Layout.succeeds_mapM_require nodes _) notes
  | mindMap d => exact Layout.succeeds_mapM_require placed _
  | entities d => exact Layout.succeeds_mapM_require placed _
  | deployment d =>
      obtain ⟨nodes, notes⟩ := List.append_subset.mp placed
      exact with_notes (Layout.succeeds_mapM_require nodes _) notes
  | useCases d =>
      obtain ⟨nodes, notes⟩ := List.append_subset.mp placed
      exact with_notes (Layout.succeeds_mapM_require nodes _) notes
  | activity d =>
      have nodes : Succeeds (d.visibleNodes.mapM (ActivityNode.draw l lineHeight)) := by
        apply succeeds_mapM
        intro node member
        apply ActivityNode.succeeds_draw
        intro name here
        exact placed (List.mem_flatMap.mpr ⟨node, member, here⟩)
      apply nodes.bind
      intro drawn
      exact succeeds_ok _

end Content

theorem Diagram.succeeds_picture {d : Diagram} (fits : d.content.Fits l) (settings : Settings α) :
    Succeeds (d.picture settings l (d.content.links l)) := by
  have lines : Succeeds ((d.content.links l).mapM (Link.draw l (settings.fontSize * 1.2))) := by
    apply succeeds_mapM
    intro link member
    obtain ⟨source, target⟩ := Content.placed_of_mem_links member
    exact Link.succeeds_draw source target _
  apply lines.bind
  intro lines
  apply (Content.succeeds_drawElements fits _).bind
  intro elements
  exact succeeds_ok _

end DiagramMarkup
