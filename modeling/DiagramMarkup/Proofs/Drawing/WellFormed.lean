import DiagramMarkup.Conversion
import DiagramMarkup.Proofs.Drawing.CellLabels
import DiagramMarkup.Proofs.Drawing.GraphText
import DiagramMarkup.Proofs.Drawing.PictureTexts

/-! # No text breaks a document

Whatever characters the texts of a diagram have, a reader that knows nothing of the diagram finds the
tags of its documents nested, and in their attributes and texts what was put there.
-/

namespace DiagramMarkup

open Drawio Markup

variable {α : Type} {write : α → String}

/-! ## Attributes that a tree does not have -/

namespace Markup

mutual

theorem attributeValues_eq_nil {key : String} {tree : Markup α} (absent : key ∉ tree.words) :
    attributeValues key (tree.items write) = [] := by
  match tree with
  | text s => exact attributeValues_chars key s.toList
  | element name attributes children =>
      rw [words, List.mem_cons, List.mem_append, not_or, not_or] at absent
      have own : (attributes.map (Attribute.read write)).filter (fun a => a.1 = key) = [] := by
        rw [List.filter_eq_nil_iff, List.forall_mem_map]
        intro a member same
        exact absent.2.1 (List.mem_map.mpr ⟨a, member, of_decide_eq_true same⟩)
      rw [attributeValues_element, own, attributeValues_all_eq_nil absent.2.2]
      rfl

theorem attributeValues_all_eq_nil {key : String} {trees : List (Markup α)}
    (absent : key ∉ allWords trees) : attributeValues key (allItems write trees) = [] := by
  match trees with
  | [] => rfl
  | tree :: trees =>
      rw [allWords, List.mem_append, not_or] at absent
      rw [allItems, attributeValues_append, attributeValues_eq_nil absent.1,
        attributeValues_all_eq_nil absent.2, List.append_nil]

end

end Markup

/-! ## The trees of graphs -/

namespace Drawio

theorem proper_lineGeometry (points : List (Point α)) : (lineGeometry points).Proper := by
  have point (p : Point α) : (element "mxPoint" [.number "x" p.x, .number "y" p.y] []).Proper :=
    .branch (by decide) (by simp +decide) (by simp)
  unfold lineGeometry
  dsimp only
  split
  · exact .branch (by decide) (by simp +decide) (by simp)
  · refine .branch (by decide) (by simp +decide) (List.forall_mem_singleton.mpr ?_)
    exact .branch (by decide) (by simp +decide) (by simp [point])

theorem Cell.proper_element (number : Nat) (cell : Cell α) : (cell.element number).Proper := by
  cases cell with
  | vertex label style parent area =>
      refine .branch (by decide) (by simp +decide [reference]) (List.forall_mem_singleton.mpr ?_)
      exact .branch (by decide) (by simp +decide) (by simp)
  | edge label style source target points =>
      refine .branch (by decide) (by simp +decide [reference]) (List.forall_mem_singleton.mpr ?_)
      exact proper_lineGeometry points
  | edgeLabel label line position =>
      refine .branch (by decide) (by simp +decide [reference]) (List.forall_mem_singleton.mpr ?_)
      refine .branch (by decide) (by simp +decide) (List.forall_mem_singleton.mpr ?_)
      exact .branch (by decide) (by simp +decide) (by simp)

theorem Cell.proper_elements (number : Nat) (cells : List (Cell α)) :
    ∀ tree ∈ Cell.elements number cells, tree.Proper := by
  induction cells generalizing number with
  | nil => simp [Cell.elements]
  | cons cell cells ih => exact List.forall_mem_cons.mpr ⟨cell.proper_element number, ih _⟩

theorem Graph.proper_root (g : Graph α) : g.root.Proper := by
  refine .branch (by decide) (by simp) ?_
  refine List.forall_mem_cons.mpr ⟨?_, List.forall_mem_cons.mpr ⟨?_, ?_⟩⟩
  · exact .branch (by decide) (by simp +decide [reference]) (by simp)
  · exact .branch (by decide) (by simp +decide [reference]) (by simp)
  · exact Cell.proper_elements firstNumber g.cells

theorem Graph.proper_element (g : Graph α) : g.element.Proper :=
  .branch (by decide) (by simp +decide [graphAttributes])
    (List.forall_mem_singleton.mpr g.proper_root)

theorem Header.proper_element (header : Header) {content : Markup α} (proper : content.Proper) :
    (header.element content).Proper := by
  refine .branch (by decide) (by simp +decide) (List.forall_mem_singleton.mpr ?_)
  exact .branch (by decide) (by simp +decide) (List.forall_mem_singleton.mpr proper)

/-- The tree of a packed graph is a text and is no element. -/
theorem Header.proper_packed (header : Header) (packed : String) :
    (header.element (.text packed) : Markup α).Proper := by
  refine .branch (by decide) (by simp +decide) (List.forall_mem_singleton.mpr ?_)
  exact .leaf (by decide) (by simp +decide)

/-! ## The labels in graphs -/

theorem attributeValues_lineGeometry (points : List (Point α)) :
    attributeValues "value" ((lineGeometry points).items write) = [] := by
  unfold lineGeometry
  dsimp only
  split <;>
    simp [attributeValues_element, attributeValues_allItems, Attribute.number, Attribute.read]

theorem Cell.attributeValues_element (number : Nat) (cell : Cell α) :
    attributeValues "value" ((cell.element number).items write) = [cell.label] := by
  cases cell <;>
    simp [Cell.element, Markup.attributeValues_element, allItems, reference, Cell.label,
      attributeValues_lineGeometry]

theorem Cell.attributeValues_elements (number : Nat) (cells : List (Cell α)) :
    attributeValues "value" (allItems write (Cell.elements number cells)) =
      cells.map Cell.label := by
  induction cells generalizing number with
  | nil => rfl
  | cons cell cells ih => simp [Cell.elements, allItems, cell.attributeValues_element, ih]

theorem Graph.attributeValues_element (g : Graph α) :
    attributeValues "value" (g.element.items write) = g.labels := by
  simp [Graph.element, Markup.attributeValues_element, allItems, graphAttributes, reference,
    Cell.attributeValues_elements, labels]

theorem Graph.attributeValues_name (g : Graph α) :
    attributeValues "name" (g.element.items write) = [] := by
  have absent : "name" ∉ g.root.words := fun member => absurd (g.words_root member) (by decide)
  have root : attributeValues "name" (g.root.items write) = [] := attributeValues_eq_nil absent
  have tree : g.element = .element "mxGraphModel" graphAttributes [g.root] := rfl
  simp [tree, Markup.attributeValues_element, allItems, graphAttributes, root]

theorem Header.attributeValues_name (header : Header) (content : Markup α) :
    attributeValues "name" ((header.element content).items write) =
      header.page :: attributeValues "name" (content.items write) := by
  simp [Header.element, Markup.attributeValues_element, allItems]

theorem Header.attributeValues_value (header : Header) (content : Markup α) :
    attributeValues "value" ((header.element content).items write) =
      attributeValues "value" (content.items write) := by
  simp [Header.element, Markup.attributeValues_element, allItems]

/-! ## Documents of graphs -/

theorem Graph.isDocument_print (g : Graph α) :
    IsDocument (g.print write) (g.element.items write) :=
  g.proper_element.isDocument_print ⟨_, _, _, _, rfl⟩

theorem Header.hasChildren (header : Header) (content : Markup α) :
    (header.element content).HasChildren :=
  ⟨_, _, _, _, rfl⟩

/-- An open document is read as the name of its page and the labels of its graph. -/
theorem Header.exists_isDocument_printOpen (header : Header) (g : Graph α) :
    ∃ items, IsDocument (header.printOpen write g) items ∧
      attributeValues "name" items = [header.page] ∧ attributeValues "value" items = g.labels := by
  have proper := header.proper_element g.proper_element
  obtain ⟨items, isDocument, same⟩ :=
    proper.exists_isDocument_printLines write (header.hasChildren _)
  refine ⟨items, isDocument, ?_, ?_⟩
  · rw [same, header.attributeValues_name, g.attributeValues_name]
  · rw [same, header.attributeValues_value, g.attributeValues_element]

/-- A packed document is read as the name of its page and the packed text. -/
theorem Header.exists_isDocument_printPacked (header : Header) (packed : String) :
    ∃ items, IsDocument (header.printPacked packed) items ∧
      attributeValues "name" items = [header.page] ∧ leaves items = [packed] := by
  have proper : (header.element (.text packed) : Markup Empty).Proper :=
    header.proper_packed packed
  refine ⟨_, proper.isDocument_declaration (header.hasChildren _), ?_, proper.leaves_items⟩
  rw [header.attributeValues_name]
  simp [items]

end Drawio

/-! ## Documents of diagrams -/

namespace Diagram

variable [Scalar α]

/-- The documents of a diagram are read as they were drawn: its tags nest, and in its attributes and
texts there are just the texts of the diagram. -/
structure Unbroken (write : α → String) (options : RenderOptions α) (l : Layout α)
    (links : List (Link α)) (d : Diagram) : Prop where
  /-- An open document has the name of its page and the labels of its cells. -/
  shown : ∀ text, d.drawio write { options with packed := false } l links = .ok text →
    ∃ items, IsDocument text.toList items ∧ attributeValues "name" items = [options.page] ∧
      attributeValues "value" items = d.content.labels l links
  /-- A packed document has the name of its page, and its only text is that of a document which has
  the labels. -/
  packed : ∀ text, d.drawio write { options with packed := true } l links = .ok text →
    ∃ items packed, IsDocument text.toList items ∧ attributeValues "name" items = [options.page] ∧
      leaves items = [packed] ∧ ∃ graph cells, unpack packed = .ok graph ∧
        IsDocument graph.toList cells ∧ attributeValues "value" cells = d.content.labels l links
  /-- A picture has the title and the lines of all texts that it shows. -/
  picture : ∀ text, d.svg write options.settings l links = .ok text →
    ∃ items, IsDocument text.toList items ∧
      leaves items = d.title.toList ++ (d.shownLabels l links).flatMap Text.lines

/-- Whatever the layout, the links and the options, and whatever characters are in the texts of a
diagram and in the name of the page, no document is broken by them. -/
theorem unbroken_documents (write : α → String) (options : RenderOptions α) (l : Layout α)
    (links : List (Link α)) (d : Diagram) : d.Unbroken write options l links where
  shown := by
    refine (d.content.labels_graph links).bind fun g labels => ensures_ok ?_
    rw [String.toList_ofList, ← labels]
    exact Header.exists_isDocument_printOpen _ g
  packed := by
    refine (d.content.labels_graph links).bind fun g labels => ensures_ok ?_
    let text := String.ofList (g.print write)
    obtain ⟨items, isDocument, page, only⟩ :=
      Header.exists_isDocument_printPacked ⟨options.page, Time.stamp options.modified⟩ (pack text)
    rw [String.toList_ofList]
    refine ⟨items, pack text, isDocument, page, only, text, g.element.items write,
      unpack_packed text, ?_, ?_⟩
    · rw [String.toList_ofList]
      exact g.isDocument_print
    · rw [g.attributeValues_element, labels]
  picture := by
    refine (d.tells_picture options.settings links).bind fun picture shows => ensures_ok ?_
    obtain ⟨root, tells⟩ := shows
    rw [String.toList_ofList]
    refine ⟨_, tells.proper.isDocument_print root, ?_⟩
    rw [tells.proper.leaves_items, tells.texts]

theorem unbroken_documents_marks :
    ∃ text, (⟨some "a < b", .activity {}⟩ : Diagram).drawio (fun _ : Rat => "\"")
        { settings := .standard, packed := false, page := "R&D", modified := 0 }
        { lanes := [⟨"\"x\" & <y>", 0, 0, 1, 1⟩], bounds := ⟨0, 0, 1, 1⟩ } [] = .ok text ∧
      ∃ items, IsDocument text.toList items ∧ attributeValues "name" items = ["R&D"] ∧
        attributeValues "value" items = ["\"x\" & <y>"] := by
  let options : RenderOptions Rat :=
    { settings := .standard, packed := true, page := "R&D", modified := 0 }
  let l : Layout Rat := { lanes := [⟨"\"x\" & <y>", 0, 0, 1, 1⟩], bounds := ⟨0, 0, 1, 1⟩ }
  let d : Diagram := ⟨some "a < b", .activity {}⟩
  have unbroken := unbroken_documents (fun _ => "\"") options l [] d
  exact ⟨_, rfl, unbroken.shown _ rfl⟩

end Diagram

end DiagramMarkup
