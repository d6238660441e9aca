import DiagramMarkup.Drawio.Lines
import DiagramMarkup.Proofs.Success

/-! # Figures

Every element of a diagram is drawn as one vertex in the layer. What else is drawn with it, such as the
rows of a class or the frame around some nodes, lies in the layer as well or inside of an earlier cell.
-/

namespace DiagramMarkup

open Drawio

variable {α β : Type}

namespace Drawio

/-- What an element is drawn as, wherever it is. -/
structure Figure (α : Type) where
  name : String
  label : String
  style : Style α
deriving Repr, DecidableEq

namespace Figure

def ofNote (note : Note) : Figure α :=
  ⟨note.name, note.text, .note⟩

def cell (figure : Figure α) (area : Area α) : Cell α :=
  .vertex figure.label figure.style layer area

end Figure

end Drawio

/-! ## The figures of a diagram -/

namespace SequenceDiagram

def lifelineFigure (t : Timeline α) (p : Participant) : Figure α :=
  ⟨p.name, p.label, .lifeline p.kind t.headHeight⟩

/-- The figures of the notes among some steps, from a number of notes on. -/
def noteFiguresFrom : Nat → List Step → List (Figure α)
  | _, [] => []
  | notes, .note note :: steps =>
    ⟨Note.nameAt notes, note.text, .note⟩ :: noteFiguresFrom (notes + 1) steps
  | notes, _ :: steps => noteFiguresFrom notes steps

end SequenceDiagram

def ActivityNode.figures (node : ActivityNode) : List (Figure α) :=
  ⟨node.name, node.text, .ofActivity node.kind⟩ ::
    node.note.toList.map fun text => ⟨node.noteName, text, .note⟩

/-- The figures of all nodes and notes. -/
def Content.figures [Scalar α] (l : Layout α) : Content → List (Figure α)
  | .classes d =>
    (d.classes.values.map fun node => ⟨node.name, node.heading, .ofClass node⟩) ++
      d.notes.map .ofNote
  | .sequence d =>
    (l.timeline.toList.flatMap fun t =>
      d.participants.values.map (SequenceDiagram.lifelineFigure t)) ++
        SequenceDiagram.noteFiguresFrom 0 d.steps
  | .states d =>
    (d.states.values.map fun state => ⟨state.name, state.text, .ofState state.kind⟩) ++
      d.notes.map .ofNote
  | .mindMap d => d.nodes.values.map fun topic => ⟨topic.name, topic.label, .ofTopic topic⟩
  | .entities d => d.entities.values.map fun entity => ⟨entity.name, entity.label, .entity⟩
  | .deployment d =>
    (d.nodes.values.map fun device => ⟨device.name, device.label, .ofArchetype device.archetype⟩) ++
      d.notes.map .ofNote
  | .useCases d =>
    (d.nodes.values.map fun node => ⟨node.name, node.label, .ofUseCase node.kind⟩) ++
      d.notes.map .ofNote
  | .activity d => d.visibleNodes.flatMap ActivityNode.figures

/-! ## How a graph grows -/

namespace Drawio.Graph

theorem next_addElement (g : Graph α) (name : String) (cell : Cell α) :
    (g.addElement name cell).next = g.next + 1 := by
  simp only [next, addElement, List.length_append, List.length_singleton, Nat.add_assoc]

theorem number_addElement_self (g : Graph α) (name : String) (cell : Cell α) :
    (g.addElement name cell).number name = .ok g.next := by
  simp only [number, addElement, List.lookup_cons_self]

theorem number_addElement_of_ne {g : Graph α} {name other : String} (apart : name ≠ other)
    (cell : Cell α) : (g.addElement other cell).number name = g.number name := by
  simp only [number, addElement, List.lookup_cons, beq_false_of_ne apart]

/-- A vertex in the layer or inside of a cell that a graph has. -/
def IsBeside (g : Graph α) (cell : Cell α) : Prop :=
  ∃ label style parent area, cell = .vertex label style parent area ∧
    (parent = layer ∨ firstNumber ≤ parent ∧ parent < g.next)

/-- What a graph can become while elements are drawn. -/
inductive Grows (figures : List (Figure α)) (g : Graph α) : Graph α → Prop
  | refl : Grows figures g g
  | element {next : Graph α} {figure : Figure α} (grows : Grows figures g next)
      (known : figure ∈ figures) (area : Area α) :
      Grows figures g (next.addElement figure.name (figure.cell area))
  | beside {next : Graph α} {cells : List (Cell α)} (grows : Grows figures g next)
      (beside : ∀ cell ∈ cells, next.IsBeside cell) : Grows figures g (next.add cells)

variable {figures : List (Figure α)} {figure : Figure α} {g next last : Graph α}

theorem Grows.trans (first : Grows figures g next) (second : Grows figures next last) :
    Grows figures g last := by
  induction second with
  | refl => exact first
  | element _ known area ih => exact ih.element known area
  | beside _ beside ih => exact ih.beside beside

theorem Grows.kept (grows : Grows figures g next) : g.cells <+: next.cells := by
  induction grows with
  | refl => exact List.prefix_rfl
  | element _ _ _ ih | beside _ _ ih => exact ih.trans (List.prefix_append _ _)

theorem grows_bind {found : Except LayoutFault (Graph α)}
    {more : Graph α → Except LayoutFault (Graph α)} (first : Ensures (Grows figures g) found)
    (second : ∀ g, Ensures (Grows figures g) (more g)) :
    Ensures (Grows figures g) (found >>= more) :=
  first.bind fun next grows => (second next).imp grows.trans

theorem grows_foldlM {add : Graph α → β → Except LayoutFault (Graph α)} {items : List β}
    (each : ∀ g, ∀ x ∈ items, Ensures (Grows figures g) (add g x)) (g : Graph α) :
    Ensures (Grows figures g) (items.foldlM add g) := by
  induction items generalizing g with
  | nil => exact ensures_ok .refl
  | cons x items ih =>
      rw [List.foldlM_cons]
      apply grows_bind (each g x List.mem_cons_self)
      exact fun g => ih (fun g y member => each g y (List.mem_cons_of_mem x member)) g

variable [Scalar α] {l : Layout α}

theorem grows_addPlaced (known : figure ∈ figures) (g : Graph α) :
    Ensures (Grows figures g) (addPlaced l g figure.name figure.label figure.style) := by
  unfold addPlaced
  cases l.require figure.name with
  | error fault => exact fun _ none => nomatch none
  | ok b => exact ensures_ok (Grows.refl.element known (.ofBox b))

theorem grows_addNotes {notes : List Note} (known : notes.map Figure.ofNote ⊆ figures)
    (g : Graph α) : Ensures (Grows figures g) (addNotes l notes g) :=
  grows_foldlM (fun g _ member => grows_addPlaced (known (List.mem_map_of_mem member)) g) g

omit [Scalar α] in
theorem grows_addFrames (style : Style α) (frames : List (Frame α)) (g : Graph α) :
    Grows figures g (g.addFrames style frames) := by
  refine Grows.refl.beside fun cell member => ?_
  obtain ⟨frame, _, rfl⟩ := List.mem_map.mp member
  exact ⟨_, _, _, _, rfl, .inl rfl⟩

theorem isBeside_rowCells {parent : Nat} (first : firstNumber ≤ parent) (drawn : parent < g.next)
    (width : α) (rows : List String) (y : α) :
    ∀ cell ∈ rowCells parent width y rows, g.IsBeside cell := by
  induction rows generalizing y with
  | nil => exact fun _ member => absurd member List.not_mem_nil
  | cons row rows ih =>
      exact List.forall_mem_cons.mpr ⟨⟨_, _, _, _, rfl, .inr ⟨first, drawn⟩⟩, ih _⟩

theorem isBeside_compartmentCells {parent : Nat} (first : firstNumber ≤ parent)
    (drawn : parent < g.next) (width title : α) (rows : Rows) :
    ∀ cell ∈ compartmentCells parent width title rows, g.IsBeside cell := by
  have inside := isBeside_rowCells (g := g) first drawn width
  unfold compartmentCells
  dsimp only
  split
  · refine List.forall_mem_append.mpr ⟨inside _ _, ?_⟩
    exact List.forall_mem_cons.mpr ⟨⟨_, _, _, _, rfl, .inr ⟨first, drawn⟩⟩, inside _ _⟩
  · exact List.forall_mem_append.mpr ⟨inside _ _, inside _ _⟩

theorem grows_addCompartments (known : figure ∈ figures) (g : Graph α) (title : α) (rows : Rows) :
    Ensures (Grows figures g)
      (addCompartments l g figure.name figure.label figure.style title rows) := by
  unfold addCompartments
  cases l.require figure.name with
  | error fault => exact fun _ none => nomatch none
  | ok b =>
      refine ensures_ok ((Grows.refl.element known (.ofBox b)).beside ?_)
      apply isBeside_compartmentCells
      · exact Nat.le_add_right _ _
      · simp only [next, addElement, List.length_append, List.length_singleton]
        omega

end Drawio.Graph

open Drawio.Graph

variable [Scalar α] {l : Layout α} {figures : List (Figure α)}

theorem ActivityNode.grows_addCells {node : ActivityNode} (known : node.figures ⊆ figures)
    (g : Graph α) : Ensures (Grows figures g) (node.addCells l g) := by
  obtain ⟨node_known, note_known⟩ := List.cons_subset.mp known
  unfold ActivityNode.addCells
  refine (ensures_found _).bind fun b _ => ?_
  have cell : Grows figures g (addCell g node b) := by
    unfold addCell
    split
    · rename_i stop
      have stopped : (⟨node.name, "", .ofActivity .stop⟩ : Figure α) ∈ figures := by
        simpa [text, stop] using node_known
      refine (Grows.refl.element stopped _).beside ?_
      exact List.forall_mem_singleton.mpr ⟨_, _, _, _, rfl, .inl rfl⟩
    · exact Grows.refl.element node_known (.ofBox b)
  cases note : node.note with
  | none => exact ensures_ok cell
  | some text =>
      rw [note] at note_known
      have noted := (List.cons_subset.mp note_known).1
      exact (grows_addPlaced noted _).imp cell.trans

namespace SequenceDiagram

theorem grows_addLifeline (t : Timeline α) {p : Participant}
    (known : lifelineFigure t p ∈ figures) (g : Graph α) :
    Ensures (Grows figures g) (addLifeline l t g p) := by
  unfold addLifeline
  refine (ensures_found _).bind fun b _ => ?_
  exact ensures_ok (Grows.refl.element known _)

theorem grows_addStepCells (t : Timeline α) {notes : Nat} {steps : List Step}
    (known : noteFiguresFrom notes steps ⊆ figures) (rows : List α) (g : Graph α) :
    Grows figures g (addStepCells l t notes (steps.zip rows) g) := by
  induction steps generalizing notes rows g with
  | nil => exact .refl
  | cons step steps ih =>
      cases rows with
      | nil => exact .refl
      | cons y rows =>
          rw [List.zip_cons_cons]
          cases step with
          | message message => exact ih known rows g
          | divider label =>
              refine Grows.trans (.beside .refl ?_) (ih known rows _)
              exact List.forall_mem_singleton.mpr ⟨_, _, _, _, rfl, .inl rfl⟩
          | note note =>
              obtain ⟨here, later⟩ := List.cons_subset.mp known
              rw [addStepCells]
              split
              · exact Grows.trans (.element .refl here _) (ih later rows _)
              · exact ih later rows _

end SequenceDiagram

/-- A graph grows by the figures of a content. -/
theorem Content.grows_addElements (c : Content) (g : Graph α) :
    Ensures (Grows (c.figures l) g) (c.addElements l g) := by
  cases c with
  | classes d =>
      refine grows_bind (grows_foldlM (fun g node member => ?_) g) ?_
      · exact grows_addCompartments (List.mem_append_left _ (List.mem_map_of_mem member)) g _ _
      · exact grows_addNotes (List.subset_append_right _ _)
  | sequence d =>
      unfold addElements figures
      cases l.timeline with
      | none => exact fun _ none => nomatch none
      | some t =>
          refine grows_bind (grows_foldlM (fun g p member => ?_) g) fun g => ensures_ok ?_
          · apply SequenceDiagram.grows_addLifeline
            apply List.mem_append_left
            exact List.mem_flatMap.mpr ⟨t, List.mem_singleton_self t, List.mem_map_of_mem member⟩
          · exact SequenceDiagram.grows_addStepCells t (List.subset_append_right _ _) t.rows g
  | states d =>
      refine grows_bind (grows_foldlM (fun g state member => ?_) g) ?_
      · exact grows_addPlaced (List.mem_append_left _ (List.mem_map_of_mem member)) g
      · exact grows_addNotes (List.subset_append_right _ _)
  | mindMap d =>
      refine grows_foldlM (fun g topic member => ?_) g
      exact grows_addPlaced (List.mem_map_of_mem member) g
  | entities d =>
      refine grows_foldlM (fun g entity member => ?_) g
      exact grows_addCompartments (List.mem_map_of_mem member) g _ _
  | deployment d =>
      refine grows_bind (grows_foldlM (fun g device member => ?_) g) ?_
      · exact grows_addPlaced (List.mem_append_left _ (List.mem_map_of_mem member)) g
      · exact grows_addNotes (List.subset_append_right _ _)
  | useCases d =>
      have frames : Grows ((useCases d).figures l) g (g.addFrames .boundary l.groups) :=
        grows_addFrames _ _ g
      refine (grows_bind (grows_foldlM (fun g node member => ?_) _) ?_).imp frames.trans
      · exact grows_addPlaced (List.mem_append_left _ (List.mem_map_of_mem member)) g
      · exact grows_addNotes (List.subset_append_right _ _)
  | activity d =>
      have frames : Grows ((activity d).figures l) g
          ((g.addFrames .lane l.lanes).addFrames .partition l.groups) :=
        (grows_addFrames _ _ g).trans (grows_addFrames _ _ _)
      refine (grows_foldlM (fun g node member => node.grows_addCells ?_ g) _).imp frames.trans
      exact fun figure here => List.mem_flatMap.mpr ⟨node, member, here⟩

end DiagramMarkup
