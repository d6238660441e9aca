import DiagramMarkup.Drawio.Lines
import DiagramMarkup.Proofs.Success

/-! # The labels of cells

The labels of the cells of a graph are the texts of the diagram, in the order in which its parts are
drawn. A cell that only stands for a shape has an empty label.
-/

namespace DiagramMarkup

open Drawio

variable {α β : Type}

def Drawio.Cell.label : Cell α → String
  | vertex label _ _ _ | edge label _ _ _ _ | edgeLabel label _ _ => label

def Drawio.Graph.labels (g : Graph α) : List String :=
  g.cells.map Cell.label

/-! ## The texts of a diagram -/

/-- The rows, with the empty text of the line between their groups. -/
def Rows.labels (rows : Rows) : List String :=
  rows.above ++ (if rows.isSeparated then [""] else []) ++ rows.below

/-- The text in a node and that of its note. The disc and the ring of an end have none. -/
def ActivityNode.labels (node : ActivityNode) : List String :=
  (if node.kind = .stop then ["", ""] else [node.text]) ++ node.note.toList

/-- The texts of notes with a place and of dividers, from a number of notes on. -/
def SequenceDiagram.stepLabels (l : Layout α) : Nat → List (Step × α) → List String
  | _, [] => []
  | notes, (.note note, _) :: steps =>
    (if (l.boxes.get? (Note.nameAt notes)).isSome then [note.text] else []) ++
      stepLabels l (notes + 1) steps
  | notes, (.divider label, _) :: steps => label :: stepLabels l notes steps
  | notes, (.message _, _) :: steps => stepLabels l notes steps

def Link.labels (link : Link α) : List String :=
  link.label.getD "" ::
    if link.cardinalities.isSome then [] else link.sourceLabel.toList ++ link.targetLabel.toList

namespace Content

def elementLabels (l : Layout α) : Content → List String
  | classes d =>
    (d.classes.values.flatMap fun node => node.heading :: node.rows.labels) ++ d.notes.map Note.text
  | sequence d =>
    d.participants.values.map Participant.label ++
      l.timeline.toList.flatMap fun t => SequenceDiagram.stepLabels l 0 (d.steps.zip t.rows)
  | states d => d.states.values.map StateNode.text ++ d.notes.map Note.text
  | mindMap d => d.nodes.values.map Topic.label
  | entities d => d.entities.values.flatMap fun entity => entity.label :: entity.rows.labels
  | deployment d => d.nodes.values.map Device.label ++ d.notes.map Note.text
  | useCases d =>
    l.groups.map Frame.name ++ (d.nodes.values.map UseCaseNode.label ++ d.notes.map Note.text)
  | activity d =>
    l.lanes.map Frame.name ++
      (l.groups.map Frame.name ++ d.visibleNodes.flatMap ActivityNode.labels)

/-- The texts at links. In a conversation only messages are drawn. -/
def linkLabels (links : List (Link α)) : Content → List String
  | sequence _ =>
    (links.filter fun link => link.message.isSome).map fun link => link.label.getD ""
  | _ => links.flatMap Link.labels

def labels (l : Layout α) (links : List (Link α)) (c : Content) : List String :=
  c.elementLabels l ++ c.linkLabels links

end Content

/-! ## The labels of a graph -/

namespace Drawio.Graph

/-- Cells with some labels are added behind the others. -/
def Adds (texts : List String) (g next : Graph α) : Prop :=
  next.labels = g.labels ++ texts

variable {texts more : List String} {g next : Graph α}

theorem adds_nil : Adds [] g g :=
  (List.append_nil _).symm

theorem Adds.trans {last : Graph α} (first : Adds texts g next) (second : Adds more next last) :
    Adds (texts ++ more) g last := by
  rw [Adds] at *
  rw [second, first, List.append_assoc]

theorem adds_add (cells : List (Cell α)) : Adds (cells.map Cell.label) g (g.add cells) :=
  List.map_append

theorem adds_addElement (name : String) (cell : Cell α) :
    Adds [cell.label] g (g.addElement name cell) :=
  List.map_append

theorem adds_bind {found : Except LayoutFault (Graph α)}
    {step : Graph α → Except LayoutFault (Graph α)} (first : Ensures (Adds texts g) found)
    (second : ∀ next, Ensures (Adds more next) (step next)) :
    Ensures (Adds (texts ++ more) g) (found >>= step) :=
  first.bind fun next adds => (second next).imp adds.trans

theorem adds_foldlM {add : Graph α → β → Except LayoutFault (Graph α)} {texts : β → List String}
    (each : ∀ g x, Ensures (Adds (texts x) g) (add g x)) (items : List β) (g : Graph α) :
    Ensures (Adds (items.flatMap texts) g) (items.foldlM add g) := by
  induction items generalizing g with
  | nil => exact ensures_ok adds_nil
  | cons x items ih =>
      rw [List.foldlM_cons, List.flatMap_cons]
      exact adds_bind (each g x) ih

theorem adds_foldlM_map {add : Graph α → β → Except LayoutFault (Graph α)} {text : β → String}
    (each : ∀ g x, Ensures (Adds [text x] g) (add g x)) (items : List β) (g : Graph α) :
    Ensures (Adds (items.map text) g) (items.foldlM add g) := by
  rw [List.map_eq_flatMap]
  exact adds_foldlM each items g

variable [Scalar α] {l : Layout α}

theorem adds_addPlaced (g : Graph α) (name label : String) (style : Style α) :
    Ensures (Adds [label] g) (addPlaced l g name label style) := by
  unfold addPlaced
  cases l.require name with
  | error fault => exact fun _ none => nomatch none
  | ok b => exact ensures_ok (adds_addElement name _)

theorem adds_addNotes (notes : List Note) (g : Graph α) :
    Ensures (Adds (notes.map Note.text) g) (addNotes l notes g) :=
  adds_foldlM_map (fun g note => adds_addPlaced g note.name note.text .note) notes g

omit [Scalar α] in
theorem adds_addFrames (g : Graph α) (style : Style α) (frames : List (Frame α)) :
    Adds (frames.map Frame.name) g (g.addFrames style frames) := by
  have cells := adds_add (g := g) (frames.map fun f => .vertex f.name style layer (.ofFrame f))
  rwa [List.map_map] at cells

theorem label_rowCells (parent : Nat) (width y : α) (rows : List String) :
    (rowCells parent width y rows).map Cell.label = rows := by
  induction rows generalizing y with
  | nil => rfl
  | cons row rows ih => simp [rowCells, Cell.label, ih]

theorem label_compartmentCells (parent : Nat) (width title : α) (rows : Rows) :
    (compartmentCells parent width title rows).map Cell.label = rows.labels := by
  by_cases separated : rows.isSeparated = true <;>
    simp [compartmentCells, Rows.labels, separated, label_rowCells, Cell.label]

theorem adds_addCompartments (g : Graph α) (name label : String) (style : Style α) (title : α)
    (rows : Rows) :
    Ensures (Adds (label :: rows.labels) g) (addCompartments l g name label style title rows) := by
  unfold addCompartments
  cases l.require name with
  | error fault => exact fun _ none => nomatch none
  | ok b =>
      have cells := adds_add (g := g.addBox name label style b)
        (compartmentCells g.next b.width title rows)
      rw [label_compartmentCells] at cells
      exact ensures_ok ((adds_addElement name _).trans cells)

end Drawio.Graph

open Drawio.Graph

variable [Scalar α] {l : Layout α}

theorem ActivityNode.adds_addCells (node : ActivityNode) (g : Graph α) :
    Ensures (Adds node.labels g) (node.addCells l g) := by
  unfold ActivityNode.addCells
  refine (ensures_found _).bind fun b _ => ?_
  have cell : Adds (if node.kind = .stop then ["", ""] else [node.text]) g (addCell g node b) := by
    unfold addCell
    split
    · exact (adds_addElement node.name _).trans (adds_add [_])
    · exact adds_addElement node.name _
  unfold labels
  cases node.note with
  | none => exact ensures_ok (cell.trans adds_nil)
  | some text => exact (adds_addPlaced _ node.noteName text .note).imp cell.trans

namespace SequenceDiagram

theorem adds_addLifeline (t : Timeline α) (g : Graph α) (p : Participant) :
    Ensures (Adds [p.label] g) (addLifeline l t g p) := by
  unfold addLifeline
  refine (ensures_found _).bind fun b _ => ?_
  exact ensures_ok (adds_addElement p.name _)

theorem adds_addStepCells (t : Timeline α) (notes : Nat) (steps : List (Step × α)) (g : Graph α) :
    Adds (stepLabels l notes steps) g (addStepCells l t notes steps g) := by
  induction steps generalizing notes g with
  | nil => exact adds_nil
  | cons step steps ih =>
      obtain ⟨step, y⟩ := step
      cases step with
      | message message => exact ih notes g
      | divider label => exact (adds_add [_]).trans (ih notes _)
      | note note =>
          rw [stepLabels, addStepCells]
          cases l.boxes.get? (Note.nameAt notes) with
          | none => exact adds_nil.trans (ih _ g)
          | some b => exact (adds_addElement _ _).trans (ih _ _)

end SequenceDiagram

namespace Content

theorem adds_addElements (c : Content) (g : Graph α) :
    Ensures (Adds (c.elementLabels l) g) (c.addElements l g) := by
  cases c with
  | classes d =>
      refine adds_bind (adds_foldlM (fun g node => ?_) _ g) (adds_addNotes d.notes)
      exact adds_addCompartments g node.name node.heading _ _ node.rows
  | sequence d =>
      unfold addElements elementLabels
      cases l.timeline with
      | none => exact fun _ none => nomatch none
      | some t =>
          refine adds_bind (adds_foldlM_map (SequenceDiagram.adds_addLifeline t) _ g) fun g => ?_
          exact ensures_ok (by simpa using SequenceDiagram.adds_addStepCells t 0 _ g)
  | states d =>
      refine adds_bind (adds_foldlM_map (fun g state => ?_) _ g) (adds_addNotes d.notes)
      exact adds_addPlaced g state.name state.text _
  | mindMap d =>
      exact adds_foldlM_map (fun g topic => adds_addPlaced g topic.name topic.label _) _ g
  | entities d =>
      refine adds_foldlM (fun g entity => ?_) _ g
      exact adds_addCompartments g entity.name entity.label _ _ entity.rows
  | deployment d =>
      refine adds_bind (adds_foldlM_map (fun g device => ?_) _ g) (adds_addNotes d.notes)
      exact adds_addPlaced g device.name device.label _
  | useCases d =>
      refine (adds_bind (adds_foldlM_map (fun g node => ?_) _ _) (adds_addNotes d.notes)).imp
        (adds_addFrames g _ _).trans
      exact adds_addPlaced g node.name node.label _
  | activity d =>
      refine (adds_foldlM (fun g node => node.adds_addCells g) _ _).imp fun adds => ?_
      exact (adds_addFrames g _ _).trans ((adds_addFrames _ _ _).trans adds)

end Content

namespace Link

theorem adds_addMessage (t : Timeline α) (link : Link α) (kind : MessageKind) (y : α)
    (g : Graph α) : Ensures (Adds [link.label.getD ""] g) (addMessage l t link kind y g) := by
  unfold addMessage
  refine (ensures_found _).bind fun source _ => (ensures_found _).bind fun target _ => ?_
  dsimp only
  split
  · exact (ensures_found _).bind fun b _ => ensures_ok (adds_add [_])
  · exact ensures_ok (adds_add [_])

theorem adds_addMessages (t : Timeline α) (links : List (Link α)) (g : Graph α) :
    Ensures (Adds ((links.filter fun link => link.message.isSome).map fun link =>
      link.label.getD "") g) (addMessages l t links g) := by
  have each : (links.filter fun link => link.message.isSome).map (fun link => link.label.getD "") =
      links.flatMap fun link => if link.message.isSome then [link.label.getD ""] else [] := by
    induction links with
    | nil => rfl
    | cons link links ih => by_cases message : link.message.isSome <;> simp [message, ih]
  rw [each]
  refine adds_foldlM (fun g link => ?_) links g
  cases link.message with
  | none => exact ensures_ok adds_nil
  | some message => exact adds_addMessage t link message.1 message.2 g

theorem label_endLabels (link : Link α) (number : Nat) :
    (link.endLabels number).map Cell.label =
      if link.cardinalities.isSome then []
      else link.sourceLabel.toList ++ link.targetLabel.toList := by
  unfold endLabels
  split <;> simp [Cell.label, Function.comp_def]

theorem adds_addLine (style : Link α → Style α) (g : Graph α) (link : Link α) :
    Ensures (Adds link.labels g) (addLine style g link) := by
  unfold addLine
  refine (ensures_found _).bind fun source _ => (ensures_found _).bind fun target _ => ?_
  have cells := adds_add (g := g)
    (.edge (link.label.getD "") (style link) source target [] :: link.endLabels g.next)
  rw [List.map_cons, label_endLabels] at cells
  exact ensures_ok cells

end Link

namespace Content

theorem adds_addLinks (links : List (Link α)) (c : Content) (g : Graph α) :
    Ensures (Adds (c.linkLabels links) g) (c.addLinks l links g) := by
  have lines := adds_foldlM (Link.adds_addLine c.linkStyle) links g
  cases c with
  | sequence d =>
      unfold addLinks
      cases l.timeline with
      | none => exact fun _ none => nomatch none
      | some t => exact Link.adds_addMessages t links g
  | classes | states | mindMap | entities | deployment | useCases | activity => exact lines

/-- The labels of the cells of a graph are the texts of the diagram. -/
theorem labels_graph (links : List (Link α)) (c : Content) :
    Ensures (fun g => g.labels = c.labels l links) (c.graph l links) :=
  adds_bind (c.adds_addElements {}) (c.adds_addLinks links)

end Content

end DiagramMarkup
