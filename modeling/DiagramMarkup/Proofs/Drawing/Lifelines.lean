import DiagramMarkup.Proofs.Drawing.Cells
import DiagramMarkup.Proofs.Drawing.Columns
import DiagramMarkup.Proofs.Drawing.EdgeCells
import DiagramMarkup.Proofs.References.Closed

/-! # The lifelines of a conversation

The cells of the participants come first, and those of the notes behind them. A message looks up the
cells of its ends by their names, and the latest cell of a name is found: a lifeline, unless a note has
the name of the participant.
-/

namespace DiagramMarkup

open Drawio

variable {α : Type}

open Drawio.Graph

namespace SequenceDiagram

/-! ## Lifelines -/

/-- Behind the cells of a graph there are the lifelines of some participants. -/
structure Lined (t : Timeline α) (g : Graph α) (participants : List Participant) (next : Graph α) :
    Prop where
  kept : g.cells <+: next.cells
  others : ∀ name, name ∉ participants.map Participant.name → next.number name = g.number name
  cell : ∀ column p, participants[column]? = some p →
    ∃ area, next.cells[g.cells.length + column]? = some ((lifelineFigure t p).cell area)
  number : ∀ column p, participants[column]? = some p → next.number p.name = .ok (g.next + column)

variable [Scalar α] {l : Layout α} {t : Timeline α} {g next last : Graph α}

omit [Scalar α] in
theorem Lined.cons {p : Participant} {participants : List Participant} {area : Area α}
    (new : p.name ∉ participants.map Participant.name)
    (lined : Lined t (g.addElement p.name ((lifelineFigure t p).cell area)) participants next) :
    Lined t g (p :: participants) next where
  kept := (List.prefix_append _ _).trans lined.kept
  others name apart := by
    rw [List.map_cons, List.mem_cons, not_or] at apart
    rw [lined.others name apart.2, number_addElement_of_ne apart.1]
  cell column q here := by
    cases column with
    | zero =>
        cases here
        refine ⟨area, ?_⟩
        exact getElem?_of_kept lined.kept List.getElem?_concat_length
    | succ column =>
        obtain ⟨area, found⟩ := lined.cell column q here
        refine ⟨area, ?_⟩
        rw [← found]
        simp only [addElement, List.length_append, List.length_singleton]
        rw [Nat.add_right_comm, Nat.add_assoc]
  number column q here := by
    cases column with
    | zero =>
        cases here
        rw [lined.others p.name new]
        exact number_addElement_self g p.name _
    | succ column =>
        rw [lined.number column q here, next_addElement, Nat.add_right_comm, Nat.add_assoc]

theorem lined_foldlM (t : Timeline α) {participants : List Participant}
    (distinct : (participants.map Participant.name).Nodup) (g : Graph α) :
    Ensures (Lined t g participants) (participants.foldlM (addLifeline l t) g) := by
  induction participants generalizing g with
  | nil =>
      refine ensures_ok { kept := List.prefix_rfl, others := fun _ _ => rfl, cell := ?_, number := ?_ }
      · exact fun _ _ none => nomatch none
      · exact fun _ _ none => nomatch none
  | cons p participants ih =>
      obtain ⟨new, distinct⟩ := List.nodup_cons.mp distinct
      rw [List.foldlM_cons]
      have first : Ensures (fun next => ∃ area,
          next = g.addElement p.name ((lifelineFigure t p).cell area)) (addLifeline l t g p) :=
        (ensures_found _).bind fun b _ => ensures_ok ⟨_, rfl⟩
      refine first.bind fun next added => ?_
      obtain ⟨area, rfl⟩ := added
      exact (ih distinct _).imp (.cons new)

/-! ## Notes -/

theorem number_addStepCells_of_not_mem {notes : Nat} {steps : List (Step × α)} {name : String}
    (apart : name ∉ noteNamesFrom notes (steps.map Prod.fst)) (g : Graph α) :
    (addStepCells l t notes steps g).number name = g.number name := by
  induction steps generalizing notes g with
  | nil => rfl
  | cons step steps ih =>
      obtain ⟨step, y⟩ := step
      cases step with
      | message message => exact ih apart g
      | divider label => exact ih apart _
      | note note =>
          rw [List.map_cons, noteNamesFrom, List.mem_cons, not_or] at apart
          rw [addStepCells, ih apart.2]
          split
          · exact number_addElement_of_ne apart.1 _
          · rfl

/-- A note with a box gets its cell behind all others. -/
theorem number_addStepCells_of_mem {notes : Nat} {steps : List (Step × α)} {name : String}
    (member : name ∈ noteNamesFrom notes (steps.map Prod.fst)) (placed : name ∈ l.boxes.keys)
    (g : Graph α) :
    ∃ number ≥ g.next, (addStepCells l t notes steps g).number name = .ok number := by
  induction steps generalizing notes g with
  | nil => exact absurd member List.not_mem_nil
  | cons step steps ih =>
      obtain ⟨step, y⟩ := step
      cases step with
      | message message => exact ih member g
      | divider label =>
          obtain ⟨number, later, found⟩ := ih member (g.add _)
          refine ⟨number, ?_, found⟩
          exact Nat.le_trans (by simp only [next, add, List.length_append]; omega) later
      | note note =>
          rw [List.map_cons, noteNamesFrom, List.mem_cons] at member
          rw [addStepCells]
          rcases member with rfl | member
          · obtain ⟨b, found⟩ := Table.exists_get? placed
            refine ⟨g.next, Nat.le_refl _, ?_⟩
            rw [number_addStepCells_of_not_mem (nameAt_not_mem (Nat.lt_succ_self _) _), found]
            exact number_addElement_self g _ _
          · split
            · obtain ⟨number, later, found⟩ := ih member (g.addBox _ note.text .note _)
              rw [addBox, next_addElement] at later
              exact ⟨number, Nat.le_of_succ_le later, found⟩
            · exact ih member g

/-! ## The graph of a conversation -/

/-- A number is that of the lifeline of a participant. -/
def IsLifeline (d : SequenceDiagram) (name : String) (number : Nat) : Prop :=
  ∃ column, d.participants.keys[column]? = some name ∧ number = firstNumber + column

/-- The cells of the columns are the lifelines of their participants, and they are found under the
names of the participants just where no note has them. -/
structure Stands (t : Timeline α) (d : SequenceDiagram) (g : Graph α) : Prop where
  cell : ∀ (column : Nat) (p : Participant), d.participants.values[column]? = some p →
    ∃ area, g.cells[column]? = some ((lifelineFigure t p).cell area)
  number : ∀ (column : Nat) (name : String), d.participants.keys[column]? = some name →
    (g.number name = .ok (firstNumber + column) ↔ name ∉ d.noteNames)

variable {d : SequenceDiagram}

theorem stands_addCells (linked : d.IsLinked) (placed : d.participants.keys ⊆ l.boxes.keys)
    (rows : t.rows.length = d.steps.length) : Ensures (Stands t d) (d.addCells l t {}) := by
  have distinct := d.participants.nodup_keys
  rw [linked.keyed.keys_eq] at distinct
  refine (lined_foldlM t distinct {}).bind fun lines lined => ensures_ok ?_
  have noted : noteNamesFrom 0 ((d.steps.zip t.rows).map Prod.fst) = d.noteNames := by
    rw [List.map_fst_zip (Nat.le_of_eq rows.symm), noteNames]
  have kept := (grows_addStepCells (l := l) t (List.Subset.refl (noteFiguresFrom 0 d.steps)) t.rows
    lines).kept
  constructor
  case cell =>
    intro column p here
    obtain ⟨area, found⟩ := lined.cell column p here
    rw [List.length_nil, Nat.zero_add] at found
    exact ⟨area, getElem?_of_kept kept found⟩
  case number =>
    intro column name here
    have known := placed (List.mem_of_getElem? here)
    rw [linked.keyed.keys_eq, List.getElem?_map] at here
    obtain ⟨p, inside, rfl⟩ := Option.map_eq_some_iff.mp here
    rw [← noted]
    constructor
    · intro found member
      obtain ⟨number, later, found'⟩ := number_addStepCells_of_mem (t := t) member known lines
      cases found'.symm.trans found
      obtain ⟨area, drawn⟩ := lined.cell column p inside
      have bound := (List.getElem?_eq_some_iff.mp drawn).1
      simp only [Graph.next, List.length_nil] at later bound
      omega
    · intro apart
      rw [number_addStepCells_of_not_mem apart]
      exact lined.number column p inside

omit [Scalar α] in
theorem Stands.isLifeline_iff (stands : Stands t d g) {name : String} {number : Nat}
    (known : name ∈ d.participants.keys) (found : g.number name = .ok number) :
    d.IsLifeline name number ↔ name ∉ d.noteNames := by
  constructor
  · rintro ⟨column, here, rfl⟩
    exact (stands.number column name here).mp found
  · intro apart
    obtain ⟨column, here⟩ := List.mem_iff_getElem?.mp known
    cases found.symm.trans ((stands.number column name here).mpr apart)
    exact ⟨column, here, rfl⟩

omit [Scalar α] in
theorem Stands.of_gainsAll {links : List (Link α)} (stands : Stands t d g)
    (gains : g.GainsAll links next) : Stands t d next where
  cell column p here := by
    obtain ⟨area, found⟩ := stands.cell column p here
    exact ⟨area, getElem?_of_kept gains.kept found⟩
  number column name here := by
    rw [gains.number_eq]
    exact stands.number column name here

theorem toRelation_links (linked : d.IsLinked) (placed : d.participants.keys ⊆ l.boxes.keys)
    (timed : l.timeline = some t) (rows : t.rows.length = d.steps.length) :
    ((Content.sequence d).links l).map Link.toRelation =
      d.messages.map fun message => message.toRelation.drawn := by
  have fits (d' : SequenceDiagram) (same : Content.sequence d = .sequence d') :
      ∃ t, l.timeline = some t ∧ t.rows.length = d'.steps.length := by
    cases same
    exact ⟨t, timed, rows⟩
  have all_placed : ∀ r ∈ d.messages.map Message.toRelation, r.isPlaced l.boxes.keys = true := by
    intro r member
    obtain ⟨source, target⟩ := linked.joined r member
    simp only [Relation.isPlaced, placed source, placed target, decide_true, Bool.and_self]
  rw [Content.toRelation_links fits]
  simp only [Content.connections, Content.relations, Content.notes, Note.relations,
    List.filterMap_nil, List.append_nil]
  rw [List.filter_eq_self.mpr all_placed, List.map_map]
  rfl

/-- The graph of a conversation. -/
structure Lifelines (d : SequenceDiagram) (g : Graph α) : Prop where
  /-- The cells of the columns are the lifelines of their participants. -/
  cells : ∀ (column : Nat) (p : Participant), d.participants.values[column]? = some p →
    ∃ headHeight area,
      g.cells[column]? = some (.vertex p.label (.lifeline p.kind headHeight) layer area)
  /-- There is one edge for every message. At both ends it stands at the lifeline of the participant just
  where no note has the name of the participant. -/
  edges : List.Forall₂
    (fun message cell => ∃ number label style source target points,
      cell = (Cell.edge label style source target points).element number ∧
        (d.IsLifeline message.source source ↔ message.source ∉ d.noteNames) ∧
          (d.IsLifeline message.target target ↔ message.target ∉ d.noteNames))
    d.messages g.edgeCells

theorem Stands.lifelines (stands : Stands t d g) (linked : d.IsLinked)
    (shows : List.Forall₂ g.Shows ((Content.sequence d).links l) g.edgeCells)
    (links : ((Content.sequence d).links l).map Link.toRelation =
      d.messages.map fun message => message.toRelation.drawn) : d.Lifelines g where
  cells column p here := ⟨t.headHeight, stands.cell column p here⟩
  edges := by
    -- A link is shown by what it has of a relation.
    have shown : List.Forall₂ (fun r cell => ∃ number style source target points,
        g.number r.source = .ok source ∧ g.number r.target = .ok target ∧
          cell = (Cell.edge (r.label.getD "") style source target points).element number)
        (((Content.sequence d).links l).map Link.toRelation) g.edgeCells :=
      List.forall₂_map_left_iff.mpr shows
    rw [links, List.forall₂_map_left_iff] at shown
    have known : ∀ message ∈ d.messages,
        message.source ∈ d.participants.keys ∧ message.target ∈ d.participants.keys :=
      fun message member => linked.joined message.toRelation (List.mem_map_of_mem member)
    refine ((List.forall₂_and_left _ _).mpr ⟨known, shown⟩).imp ?_
    rintro message cell ⟨⟨source_known, target_known⟩, number, style, source, target, points,
      source_found, target_found, same⟩
    exact ⟨number, _, style, source, target, points, same,
      stands.isLifeline_iff source_known source_found,
      stands.isLifeline_iff target_known target_found⟩

theorem exists_graph (linked : d.IsLinked) (settings : Settings α) (measure : Measure α) :
    ∃ g, (Content.sequence d).graph ((Content.sequence d).layout settings measure)
      ((Content.sequence d).links ((Content.sequence d).layout settings measure)) = .ok g ∧
        d.Lifelines g := by
  let c := Content.sequence d
  let l := c.layout settings measure
  have fits : c.Fits l := Content.fits_layout trivial
  obtain ⟨t, timed, rows⟩ := fits.timed d rfl
  have placed : d.participants.keys ⊆ l.boxes.keys := by
    rw [linked.keyed.keys_eq]
    exact fits.placed
  obtain ⟨g, drawn⟩ := Content.succeeds_graph fits
  have stands : Ensures (Stands t d) (c.graph l (c.links l)) := by
    unfold Content.graph
    have elements : c.addElements l {} = d.addCells l t {} := by
      simp only [c, Content.addElements, timed]
    rw [elements]
    refine (stands_addCells linked placed rows).bind fun g stands => ?_
    exact (c.gainsAll_addLinks (c.links l) g).imp stands.of_gainsAll
  exact ⟨g, drawn, (stands g drawn).lifelines linked (c.shows_graph g drawn)
    (toRelation_links linked placed timed rows)⟩

end SequenceDiagram

/-- Whatever the lines, a conversation is read, and where no participant has the name of a note, each
has a head in its own column and the messages run between the lifelines. -/
theorem Reader.columns_sequence (lines : List Line) :
    ∃ (d : SequenceDiagram) (diagnostics : List Diagnostic),
      Reader.standard .sequence lines = .ok (.sequence d, diagnostics) ∧
        ∀ (α : Type) [Scalar α] (settings : Settings α) (measure : Measure α),
          let l := (Content.sequence d).layout settings measure
          d.Columns settings measure l ∧
            ∃ g, (Content.sequence d).graph l ((Content.sequence d).links l) = .ok g ∧
              d.Lifelines g := by
  have linked := SequenceDiagram.linked_ofLines lines
  have anchored := SequenceDiagram.anchored_ofLines lines
  refine ⟨_, _, rfl, fun α _ settings measure => ⟨?_, ?_⟩⟩
  · exact SequenceDiagram.columns_layout linked anchored settings measure
  · exact SequenceDiagram.exists_graph linked settings measure

/-- The note takes the box of a participant, and the message ends at the note. -/
theorem Reader.message_to_note_name :
    ∃ d, Reader.standard .sequence [⟨1, "A -> \"note-0\" : go"⟩, ⟨2, "note left of A : hi"⟩] =
        .ok (.sequence d, []) ∧
      d.participants.keys = ["A", "note-0"] ∧ d.notes.length = 1 ∧
        ∀ (α : Type) [Scalar α] (settings : Settings α) (measure : Measure α),
          let l := (Content.sequence d).layout settings measure
          l.boxes.keys = ["A", "note-0"] ∧
            ∃ g, (Content.sequence d).graph l ((Content.sequence d).links l) = .ok g ∧
              ∃ number label style source target points,
                g.edgeCells = [(Cell.edge label style source target points).element number] ∧
                  d.IsLifeline "A" source ∧ ¬ d.IsLifeline "note-0" target := by
  let lines : List Line := [⟨1, "A -> \"note-0\" : go"⟩, ⟨2, "note left of A : hi"⟩]
  have clean : (SequenceDiagram.ofLines lines).2 = [] := by decide +kernel
  have participants : (SequenceDiagram.ofLines lines).1.participants.keys = ["A", "note-0"] := by
    decide +kernel
  have notes : (SequenceDiagram.ofLines lines).1.noteNames = ["note-0"] := by decide +kernel
  have messages : (SequenceDiagram.ofLines lines).1.messages =
      [⟨"A", "note-0", .sync, some "go"⟩] := by decide +kernel
  have linked := SequenceDiagram.linked_ofLines lines
  have count : (SequenceDiagram.ofLines lines).1.notes.length = 1 := by
    rw [← SequenceDiagram.length_noteNames, notes]
    rfl
  refine ⟨(SequenceDiagram.ofLines lines).1,
    congrArg (fun diagnostics => Except.ok (_, diagnostics)) clean, participants, count, ?_⟩
  intro α _ settings measure
  constructor
  · have anchored := SequenceDiagram.anchored_ofLines lines
    rw [(SequenceDiagram.columns_layout linked anchored settings measure).keys, participants, notes]
    decide
  · obtain ⟨g, drawn, lifelines⟩ := SequenceDiagram.exists_graph linked settings measure
    have edges := lifelines.edges
    rw [messages, notes, List.forall₂_cons_left_iff] at edges
    obtain ⟨cell, rest, ⟨number, label, style, source, target, points, rfl, leaves, reaches⟩, others,
      found⟩ := edges
    rw [List.forall₂_nil_left_iff.mp others] at found
    refine ⟨g, drawn, number, label, style, source, target, points, found, ?_, ?_⟩
    · exact leaves.mpr (by decide)
    · exact fun lifeline => reaches.mp lifeline (List.mem_singleton_self _)

end DiagramMarkup
