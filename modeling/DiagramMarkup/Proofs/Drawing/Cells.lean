import DiagramMarkup.Drawio.Lines
import DiagramMarkup.Proofs.Drawing.Links
import DiagramMarkup.Proofs.Success

/-! # Graphs of layouts that fit

Cells of elements are added one after the other, and none of the elements drawn before is lost. Where
the layout fits, every element with a box gets a cell, so that every link finds the cells at its ends.
-/

namespace DiagramMarkup

open Drawio

variable {α β : Type} {l : Layout α} {name : String}

theorem Layout.succeeds_require (known : name ∈ l.boxes.keys) : Succeeds (l.require name) := by
  obtain ⟨box, found⟩ := Table.exists_get? known
  refine ⟨box, ?_⟩
  simp only [require, found]

namespace Drawio.Graph

/-- The names of the elements that have a cell. -/
def drawn (g : Graph α) : List String :=
  g.elements.map Prod.fst

/-- Cells are added, among them those of the named elements. -/
def Draws (g : Graph α) (names : List String) (found : Except LayoutFault (Graph α)) : Prop :=
  ∃ next, found = .ok next ∧ g.drawn ⊆ next.drawn ∧ names ⊆ next.drawn

variable {g : Graph α} {names more : List String}

theorem succeeds_number (known : name ∈ g.drawn) : Succeeds (g.number name) := by
  have present : (g.elements.lookup name).isSome := by
    obtain ⟨entry, member, rfl⟩ := List.mem_map.mp known
    rw [List.lookup_isSome_iff]
    exact ⟨entry, member, beq_self_eq_true _⟩
  obtain ⟨number, found⟩ := Option.isSome_iff_exists.mp present
  refine ⟨number, ?_⟩
  simp only [Graph.number, found]

namespace Draws

theorem nothing : Draws g [] (.ok g) :=
  ⟨g, rfl, List.Subset.refl _, List.nil_subset _⟩

theorem element {next : Graph α} {number : Nat} (added : next.elements = (name, number) :: g.elements) :
    Draws g [name] (.ok next) := by
  have all : next.drawn = name :: g.drawn := congrArg (List.map Prod.fst) added
  refine ⟨next, rfl, ?_, ?_⟩
  · rw [all]
    exact List.subset_cons_self _ _
  · rw [all]
    exact List.cons_subset.mpr ⟨List.mem_cons_self, List.nil_subset _⟩

theorem bind {found : Except LayoutFault (Graph α)} {next : Graph α → Except LayoutFault (Graph α)}
    (first : Draws g names found) (second : ∀ g, Draws g more (next g)) :
    Draws g (names ++ more) (found >>= next) := by
  obtain ⟨middle, rfl, kept, named⟩ := first
  obtain ⟨last, found, kept', named'⟩ := second middle
  refine ⟨last, found, List.Subset.trans kept kept', List.append_subset.mpr ⟨?_, named'⟩⟩
  exact List.Subset.trans named kept'

theorem foldlM {add : Graph α → β → Except LayoutFault (Graph α)} {names : β → List String}
    {items : List β} (each : ∀ g, ∀ x ∈ items, Draws g (names x) (add g x)) (g : Graph α) :
    Draws g (items.flatMap names) (items.foldlM add g) := by
  induction items generalizing g with
  | nil => exact nothing
  | cons x items ih =>
      rw [List.foldlM_cons, List.flatMap_cons]
      apply (each g x List.mem_cons_self).bind
      exact ih fun g y member => each g y (List.mem_cons_of_mem x member)

theorem foldlM_map {add : Graph α → β → Except LayoutFault (Graph α)} {naming : β → String}
    {items : List β} (each : ∀ g, ∀ x ∈ items, Draws g [naming x] (add g x)) (g : Graph α) :
    Draws g (items.map naming) (items.foldlM add g) := by
  rw [List.map_eq_flatMap]
  exact foldlM each g

end Draws

variable [Scalar α]

theorem draws_addPlaced (known : name ∈ l.boxes.keys) (g : Graph α) (label : String)
    (style : Style α) : Draws g [name] (addPlaced l g name label style) := by
  obtain ⟨box, found⟩ := Layout.succeeds_require known
  simp only [addPlaced, found]
  exact Draws.element rfl

theorem draws_addCompartments (known : name ∈ l.boxes.keys) (g : Graph α) (label : String)
    (style : Style α) (title : α) (rows : Rows) :
    Draws g [name] (addCompartments l g name label style title rows) := by
  obtain ⟨box, found⟩ := Layout.succeeds_require known
  simp only [addCompartments, found]
  exact Draws.element rfl

theorem draws_addNotes {notes : List Note} (known : notes.map Note.name ⊆ l.boxes.keys)
    (g : Graph α) : Draws g (notes.map Note.name) (addNotes l notes g) :=
  Draws.foldlM_map
    (fun g _ member => draws_addPlaced (known (List.mem_map_of_mem member)) g _ _) g

end Drawio.Graph

open Drawio.Graph

variable [Scalar α]

/-! ## Elements -/

theorem ActivityNode.draws_addCells {node : ActivityNode} (known : node.names ⊆ l.boxes.keys)
    (g : Graph α) : Draws g node.names (node.addCells l g) := by
  obtain ⟨node_known, note_known⟩ := List.cons_subset.mp known
  obtain ⟨box, found⟩ := Layout.succeeds_require node_known
  have cell : Draws g [node.name] (.ok (addCell g node box)) := by
    unfold addCell
    split <;> exact Draws.element rfl
  unfold ActivityNode.addCells names at *
  rw [found]
  cases note : node.note with
  | none => exact cell
  | some text =>
      rw [note] at note_known
      have noted := (List.cons_subset.mp note_known).1
      exact cell.bind fun g => draws_addPlaced noted g _ _

namespace SequenceDiagram

theorem draws_addLifeline (t : Timeline α) {p : Participant} (known : p.name ∈ l.boxes.keys)
    (g : Graph α) : Draws g [p.name] (addLifeline l t g p) := by
  obtain ⟨box, found⟩ := Layout.succeeds_require known
  unfold addLifeline
  rw [found]
  exact Draws.element rfl

theorem subset_addStepCells (t : Timeline α) (notes : Nat) (rows : List (Step × α)) (g : Graph α) :
    g.drawn ⊆ (addStepCells l t notes rows g).drawn ∧
      ∀ name ∈ noteNamesFrom notes (rows.map Prod.fst), name ∈ l.boxes.keys →
        name ∈ (addStepCells l t notes rows g).drawn := by
  induction rows generalizing notes g with
  | nil => exact ⟨List.Subset.refl _, fun _ member => absurd member List.not_mem_nil⟩
  | cons row rows ih =>
      obtain ⟨step, y⟩ := row
      cases step with
      | message message => exact ih notes g
      | divider label =>
          rw [addStepCells]
          exact ⟨(ih notes (g.add _)).1, (ih notes _).2⟩
      | note note =>
          rw [addStepCells, List.map_cons, noteNamesFrom]
          cases found : l.boxes.get? (Note.nameAt notes) with
          | none =>
              obtain ⟨kept, named⟩ := ih (notes + 1) g
              refine ⟨kept, fun name member known => ?_⟩
              rcases List.mem_cons.mp member with rfl | later
              · obtain ⟨box, found'⟩ := Table.exists_get? known
                cases found.symm.trans found'
              · exact named name later known
          | some box =>
              dsimp only
              obtain ⟨kept, named⟩ := ih (notes + 1) (g.addBox (Note.nameAt notes) note.text .note box)
              obtain ⟨here, before⟩ := List.cons_subset.mp kept
              refine ⟨before, fun name member known => ?_⟩
              rcases List.mem_cons.mp member with rfl | later
              · exact here
              · exact named name later known

theorem draws_addCells {t : Timeline α} {d : SequenceDiagram}
    (known : d.participants.values.map Participant.name ⊆ l.boxes.keys)
    (rows : t.rows.length = d.steps.length) (g : Graph α) :
    ∃ next, d.addCells l t g = .ok next ∧
      ∀ name ∈ d.participants.values.map Participant.name ++ noteNamesFrom 0 d.steps,
        name ∈ l.boxes.keys → name ∈ next.drawn := by
  obtain ⟨lined, found, _, named⟩ := Draws.foldlM_map (fun g p member =>
    draws_addLifeline t (p := p) (known (List.mem_map_of_mem member)) g) g
  obtain ⟨kept, noted⟩ := subset_addStepCells (l := l) t 0 (d.steps.zip t.rows) lined
  refine ⟨addStepCells l t 0 (d.steps.zip t.rows) lined, ?_, ?_⟩
  · unfold addCells
    rw [found]
    rfl
  · intro name member placed
    rcases List.mem_append.mp member with participant | note
    · exact kept (named participant)
    · rw [List.map_fst_zip (Nat.le_of_eq rows.symm)] at noted
      exact noted name note placed

end SequenceDiagram

namespace Content

/-- Where a layout fits, every element that has a box gets a cell. -/
theorem exists_addElements {c : Content} (fits : c.Fits l) :
    ∃ g, c.addElements l {} = .ok g ∧ l.boxes.keys ⊆ g.drawn := by
  have placed := fits.placed
  have of_draws {g : Graph α} {found : Except LayoutFault (Graph α)} (none_loose : c.looseNames = [])
      (draws : Draws g c.elementNames found) : ∃ g, found = .ok g ∧ l.boxes.keys ⊆ g.drawn := by
    obtain ⟨next, found, _, named⟩ := draws
    refine ⟨next, found, fun name member => ?_⟩
    have known := fits.known member
    rw [none_loose, List.append_nil] at known
    exact named known
  cases c with
  | classes d =>
      obtain ⟨nodes, notes⟩ := List.append_subset.mp placed
      apply of_draws rfl
      apply (Draws.foldlM_map (fun g node member => ?_) {}).bind
      · exact draws_addNotes notes
      · exact draws_addCompartments (nodes (List.mem_map_of_mem member)) g _ _ _ _
  | sequence d =>
      obtain ⟨t, timed, rows⟩ := fits.timed d rfl
      obtain ⟨next, found, named⟩ := d.draws_addCells placed rows {}
      refine ⟨next, ?_, fun name member => named name (fits.known member) member⟩
      simp only [addElements, timed, found]
  | states d =>
      obtain ⟨nodes, notes⟩ := List.append_subset.mp placed
      apply of_draws rfl
      apply (Draws.foldlM_map (fun g node member => ?_) {}).bind
      · exact draws_addNotes notes
      · exact draws_addPlaced (nodes (List.mem_map_of_mem member)) g _ _
  | mindMap d =>
      apply of_draws rfl
      apply Draws.foldlM_map
      intro g topic member
      exact draws_addPlaced (placed (List.mem_map_of_mem member)) g _ _
  | entities d =>
      apply of_draws rfl
      apply Draws.foldlM_map
      intro g entity member
      exact draws_addCompartments (placed (List.mem_map_of_mem member)) g _ _ _ _
  | deployment d =>
      obtain ⟨nodes, notes⟩ := List.append_subset.mp placed
      apply of_draws rfl
      apply (Draws.foldlM_map (fun g node member => ?_) {}).bind
      · exact draws_addNotes notes
      · exact draws_addPlaced (nodes (List.mem_map_of_mem member)) g _ _
  | useCases d =>
      obtain ⟨nodes, notes⟩ := List.append_subset.mp placed
      apply of_draws rfl
      apply (Draws.foldlM_map (fun g node member => ?_) _).bind
      · exact draws_addNotes notes
      · exact draws_addPlaced (nodes (List.mem_map_of_mem member)) g _ _
  | activity d =>
      apply of_draws rfl
      apply Draws.foldlM
      intro g node member
      apply ActivityNode.draws_addCells
      intro name here
      exact placed (List.mem_flatMap.mpr ⟨node, member, here⟩)

end Content

/-! ## Links -/

namespace Link

variable {g : Graph α} {link : Link α}

theorem exists_addLine (style : Link α → Style α) (source : link.source ∈ g.drawn)
    (target : link.target ∈ g.drawn) :
    ∃ next, addLine style g link = .ok next ∧ next.drawn = g.drawn := by
  obtain ⟨first, found⟩ := succeeds_number source
  obtain ⟨second, found'⟩ := succeeds_number target
  unfold addLine
  rw [found, found']
  exact ⟨_, rfl, rfl⟩

theorem exists_addMessage (t : Timeline α) (kind : MessageKind) (y : α)
    (placed : link.source ∈ l.boxes.keys) (source : link.source ∈ g.drawn)
    (target : link.target ∈ g.drawn) :
    ∃ next, addMessage l t link kind y g = .ok next ∧ next.drawn = g.drawn := by
  obtain ⟨first, found⟩ := succeeds_number source
  obtain ⟨second, found'⟩ := succeeds_number target
  obtain ⟨box, found''⟩ := Layout.succeeds_require placed
  unfold addMessage
  rw [found, found']
  dsimp only [bind, Except.bind]
  split
  · rw [found'']
    exact ⟨_, rfl, rfl⟩
  · exact ⟨_, rfl, rfl⟩

end Link

namespace Content

/-- Where every box has a cell, every link is drawn. -/
theorem succeeds_addLinks {c : Content} (fits : c.Fits l) {g : Graph α}
    (drawn : l.boxes.keys ⊆ g.drawn) : Succeeds (c.addLinks l (c.links l) g) := by
  have lines (style : Link α → Style α) : Succeeds ((c.links l).foldlM (Link.addLine style) g) := by
    apply succeeds_foldlM (P := fun g => l.boxes.keys ⊆ g.drawn) drawn
    intro g drawn link member
    obtain ⟨source, target⟩ := placed_of_mem_links member
    obtain ⟨next, found, same⟩ := Link.exists_addLine style (drawn source) (drawn target)
    exact ⟨next, found, same ▸ drawn⟩
  have messages (t : Timeline α) : Succeeds (Link.addMessages l t (c.links l) g) := by
    apply succeeds_foldlM (P := fun g => l.boxes.keys ⊆ g.drawn) drawn
    intro g drawn link member
    obtain ⟨source, target⟩ := placed_of_mem_links member
    cases link.message with
    | none => exact ⟨g, rfl, drawn⟩
    | some message =>
        obtain ⟨next, found, same⟩ := Link.exists_addMessage t message.1 message.2 source
          (drawn source) (drawn target)
        exact ⟨next, found, same ▸ drawn⟩
  cases c with
  | sequence d =>
      obtain ⟨t, timed, _⟩ := fits.timed d rfl
      simp only [addLinks, timed]
      exact messages t
  | classes d | states d | mindMap d | entities d | deployment d | useCases d | activity d =>
      exact lines _

theorem succeeds_graph {c : Content} (fits : c.Fits l) : Succeeds (c.graph l (c.links l)) := by
  obtain ⟨g, found, drawn⟩ := exists_addElements fits
  unfold graph
  rw [found]
  exact succeeds_addLinks fits drawn

end Content

end DiagramMarkup
