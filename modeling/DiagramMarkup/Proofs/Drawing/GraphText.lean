import DiagramMarkup.Conversion
import DiagramMarkup.Proofs.Codec.Unpacking
import DiagramMarkup.Proofs.Markup.Printing
import DiagramMarkup.Proofs.Success

/-! # The text of a graph

A draw.io document holds its graph openly, over several lines, or packed. What is packed is the text of
the graph on one line: the lines of the open document, one behind the other and without indentation.
-/

namespace DiagramMarkup

open Drawio

variable {α : Type} {write : α → String}

/-! ## Packed graphs -/

theorem Drawio.newline_not_mem_pack (text : String) : '\n' ∉ (pack text).toList := by
  rw [pack, String.toList_ofList]
  intro member
  exact absurd (Codec.Base64.not_isBlank_of_mem_encode _ '\n' member) (by decide)

/-! ## The words of documents -/

namespace Drawio

/-- The names of elements and attributes in the cells of a graph. -/
def cellWords : List String :=
  ["mxCell", "id", "value", "style", "vertex", "edge", "connectable", "parent", "source", "target",
    "mxGeometry", "x", "y", "width", "height", "as", "relative", "Array", "mxPoint"]

def graphWords : List String :=
  "root" :: cellWords

/-- The names in an open document. -/
def documentWords : List String :=
  ["mxfile", "host", "modified", "agent", "version", "diagram", "name", "id", "mxGraphModel", "dx",
    "dy", "grid", "gridSize", "guides", "tooltips", "connect", "arrows", "fold", "page", "pageScale",
    "pageWidth", "pageHeight", "math", "shadow"] ++ graphWords

theorem words_lineGeometry (points : List (Point α)) : (lineGeometry points).words ⊆ cellWords := by
  unfold lineGeometry
  dsimp only
  split
  · show ["mxGeometry", "relative", "as"] ⊆ cellWords
    decide
  · have inside : Markup.allWords (points.map fun p =>
        (.element "mxPoint" [.number "x" p.x, .number "y" p.y] [] : Markup α)) ⊆ cellWords := by
      apply Markup.allWords_subset
      intro tree member
      obtain ⟨p, _, rfl⟩ := List.mem_map.mp member
      show ["mxPoint", "x", "y"] ⊆ cellWords
      decide
    show ["mxGeometry", "relative", "as", "Array", "as"] ++ (_ ++ []) ⊆ cellWords
    rw [List.append_nil]
    exact List.append_subset.mpr ⟨by decide, inside⟩

namespace Cell

theorem words_element (number : Nat) (cell : Cell α) : (cell.element number).words ⊆ cellWords := by
  cases cell with
  | vertex label style parent area =>
      show ["mxCell", "id", "value", "style", "vertex", "parent", "mxGeometry", "x", "y", "width",
        "height", "as"] ⊆ cellWords
      decide
  | edge label style source target points =>
      show ["mxCell", "id", "value", "style", "edge", "parent", "source", "target"] ++ (_ ++ []) ⊆
        cellWords
      rw [List.append_nil]
      exact List.append_subset.mpr ⟨by decide, words_lineGeometry points⟩
  | edgeLabel label line position =>
      show ["mxCell", "id", "value", "style", "vertex", "connectable", "parent", "mxGeometry", "x",
        "relative", "as", "mxPoint", "as"] ⊆ cellWords
      decide

theorem allWords_elements (number : Nat) (cells : List (Cell α)) :
    Markup.allWords (elements number cells) ⊆ cellWords := by
  induction cells generalizing number with
  | nil => exact List.nil_subset _
  | cons cell cells ih => exact List.append_subset.mpr ⟨words_element number cell, ih _⟩

end Cell

/-- The element that holds all cells of a graph. -/
def Graph.root (g : Graph α) : Markup α :=
  .element "root" [] <|
    .element "mxCell" [reference "id" 0] [] ::
      .element "mxCell" [reference "id" layer, reference "parent" 0] [] ::
        Cell.elements firstNumber g.cells

theorem Graph.words_root (g : Graph α) : g.root.words ⊆ graphWords := by
  show ["root", "mxCell", "id", "mxCell", "id", "parent"] ++ _ ⊆ graphWords
  refine List.append_subset.mpr ⟨by decide, ?_⟩
  exact List.Subset.trans (Cell.allWords_elements firstNumber g.cells) (List.subset_cons_self _ _)

theorem Header.words_element (header : Header) (content : Markup α) :
    (header.element content).words =
      ["mxfile", "host", "modified", "agent", "version", "diagram", "name", "id"] ++ content.words := by
  simp only [Header.element, Markup.words, Markup.allWords, Markup.Attribute.text, List.map_cons,
    List.map_nil, List.append_nil, List.cons_append, List.nil_append]

theorem Header.words_open (header : Header) (g : Graph α) :
    (header.element g.element).words ⊆ documentWords := by
  have graph : g.element.words ⊆ documentWords := by
    show ["mxGraphModel", "dx", "dy", "grid", "gridSize", "guides", "tooltips", "connect", "arrows",
      "fold", "page", "pageScale", "pageWidth", "pageHeight", "math", "shadow"] ++ (g.root.words ++ [])
        ⊆ documentWords
    rw [List.append_nil]
    refine List.append_subset.mpr ⟨by decide, ?_⟩
    exact List.Subset.trans g.words_root (List.subset_append_right _ _)
  rw [header.words_element]
  exact List.append_subset.mpr ⟨by decide, graph⟩

theorem isLine_of_mem_documentWords : ∀ word ∈ documentWords, Markup.IsLine word.toList := by
  have checked : ∀ word ∈ documentWords, '\n' ∉ word.toList ∧ word.toList.head? ≠ some ' ' := by
    decide
  exact fun word member => ⟨(checked word member).1, (checked word member).2⟩

/-! ## Open documents -/

/-- The graph in an open document: its lines without indentation, from the one that starts the graph to
the one that ends it. -/
def graphText (document : List Char) : List Char :=
  let lines := (Markup.bareLines document).dropWhile fun line =>
    !Text.hasStart "<mxGraphModel".toList line
  let inside := lines.takeWhile (· ≠ "</mxGraphModel>".toList)
  let rest := lines.dropWhile (· ≠ "</mxGraphModel>".toList)
  (inside ++ rest.take 1).flatten

/-- The lines of an open document are a declaration and the tags of its elements. -/
theorem Header.bareLines_printOpen (header : Header) (g : Graph α) :
    Markup.bareLines (header.printOpen write g) =
      declaration :: ((header.element g.element).tokens write ++ [[]]) := by
  have lines : ∀ token ∈ (header.element g.element).tokens write, Markup.IsLine token :=
    fun token member =>
      (Markup.isToken_of_mem (header.words_open g) token member).isLine isLine_of_mem_documentWords
  have first : Markup.IsLine declaration := ⟨by decide, by decide⟩
  have printed : header.printOpen write g =
      Markup.line 0 declaration ++ ((header.element g.element).printLines write 0 ++ []) := by
    simp only [printOpen, Markup.line, Nat.mul_zero, List.replicate_zero, List.nil_append,
      List.append_nil, List.append_assoc, List.singleton_append]
  rw [printed, Markup.bareLines_line first, Markup.bareLines_printLines lines]
  rfl

/-- The graph of an open document is the text of the graph on one line. -/
theorem graphText_printOpen (header : Header) (g : Graph α) :
    graphText (header.printOpen write g) = g.print write := by
  let start := Markup.startTag write "mxGraphModel" graphAttributes
  let inside := Markup.allTokens write [g.root]
  let stop := Markup.endTag "mxGraphModel"
  let behind := [Markup.endTag "diagram", Markup.endTag "mxfile", []]
  have lines : (Markup.bareLines (header.printOpen write g)).dropWhile (fun line =>
      !Text.hasStart "<mxGraphModel".toList line) = start :: inside ++ stop :: behind := by
    rw [header.bareLines_printOpen]
    show List.dropWhile _ (_ :: _ :: _ :: start ::
      ((((inside ++ [stop]) ++ [] ++ [Markup.endTag "diagram"]) ++ [] ++ [Markup.endTag "mxfile"]) ++
        [[]])) = _
    rw [List.dropWhile_cons_of_pos rfl, List.dropWhile_cons_of_pos rfl,
      List.dropWhile_cons_of_pos rfl, List.dropWhile_cons_of_neg (by exact Bool.false_ne_true)]
    simp only [List.append_nil, List.append_assoc, List.cons_append, List.nil_append, behind]
  have others : ∀ line ∈ start :: inside, decide (line ≠ stop) = true := by
    refine List.forall_mem_cons.mpr ⟨?_, fun line member => ?_⟩
    · refine decide_eq_true fun same => ?_
      have second : some 'm' = some '/' := congrArg (fun s => s[1]?) same
      exact absurd second (by decide)
    · refine decide_eq_true ?_
      have words : Markup.allWords [g.root] ⊆ graphWords :=
        Markup.allWords_subset (List.forall_mem_singleton.mpr g.words_root)
      exact (Markup.isToken_of_mem_all words line member).ne_endTag (by decide)
  have last : "</mxGraphModel>".toList = stop := rfl
  unfold graphText
  dsimp only
  rw [lines, last, List.takeWhile_append_of_pos others, List.dropWhile_append_of_pos others,
    List.takeWhile_cons_of_neg (by simp), List.dropWhile_cons_of_neg (by simp), List.append_nil]
  exact (Markup.print_eq write g.element).symm

example : graphText "<a>\n  <mxGraphModel>\n    <root/>\n  </mxGraphModel>\n</a>\n".toList =
    "<mxGraphModel><root/></mxGraphModel>".toList := by decide +kernel

/-! ## Packed documents -/

theorem newline_not_mem_printPacked (header : Header) (text : String) :
    '\n' ∉ header.printPacked (pack text) := by
  have words : ∀ word ∈ (header.element (.text (pack text)) : Markup Empty).words,
      '\n' ∉ word.toList := by
    rw [header.words_element]
    refine List.forall_mem_append.mpr ⟨by decide, ?_⟩
    exact List.forall_mem_singleton.mpr (newline_not_mem_pack text)
  unfold Header.printPacked
  rw [List.mem_append, not_or]
  exact ⟨by decide, Markup.newline_not_mem_print words⟩

end Drawio

/-! ## Open and packed renderings -/

namespace Diagram

variable [Scalar α]

def header (options : RenderOptions α) : Header :=
  ⟨options.page, Time.stamp options.modified⟩

/-- The open and the packed rendering of a diagram hold the same graph. -/
structure PacksShown (write : α → String) (options : RenderOptions α) (l : Layout α)
    (links : List (Link α)) (d : Diagram) : Prop where
  /-- Both are made, or neither is. -/
  succeeds : Succeeds (d.drawio write { options with packed := false } l links) ↔
    Succeeds (d.drawio write { options with packed := true } l links)
  /-- The text that is packed is that of the graph, and this is what the open document shows. -/
  same : ∀ shown packed, d.drawio write { options with packed := false } l links = .ok shown →
    d.drawio write { options with packed := true } l links = .ok packed →
      ∃ g, d.content.graph l links = .ok g ∧ graphText shown.toList = g.print write ∧
        packed.toList = (header options).printPacked (pack (String.ofList (g.print write)))
  /-- The packed document is a single line. -/
  oneLine : ∀ packed, d.drawio write { options with packed := true } l links = .ok packed →
    '\n' ∉ packed.toList

/-- Whatever the layout, the links and the options, and whatever the labels and the name of the page,
the packed graph is the one that the open document shows. -/
theorem packsShown_drawio (write : α → String) (options : RenderOptions α) (l : Layout α)
    (links : List (Link α)) (d : Diagram) : d.PacksShown write options l links := by
  have shown : d.drawio write { options with packed := false } l links =
      (d.content.graph l links).map fun g => String.ofList ((header options).printOpen write g) := by
    unfold drawio
    cases d.content.graph l links <;> rfl
  have packed : d.drawio write { options with packed := true } l links =
      (d.content.graph l links).map fun g =>
        String.ofList ((header options).printPacked (pack (String.ofList (g.print write)))) := by
    unfold drawio
    cases d.content.graph l links <;> rfl
  constructor
  case succeeds => rw [shown, packed, succeeds_map_iff, succeeds_map_iff]
  case same =>
    intro text text' shows packs
    rw [shown] at shows
    rw [packed] at packs
    obtain ⟨g, found, rfl⟩ := exists_of_map_eq_ok shows
    obtain ⟨g', found', rfl⟩ := exists_of_map_eq_ok packs
    have same : g' = g := Except.ok.inj (found'.symm.trans found)
    refine ⟨g, found, ?_, ?_⟩
    · rw [String.toList_ofList, graphText_printOpen]
    · rw [String.toList_ofList, same]
  case oneLine =>
    intro text packs
    rw [packed] at packs
    obtain ⟨g, _, rfl⟩ := exists_of_map_eq_ok packs
    rw [String.toList_ofList]
    exact newline_not_mem_printPacked _ _

end Diagram

end DiagramMarkup
