import DiagramMarkup.Layout.Links
import DiagramMarkup.Proofs.Drawing.Fits

/-! # The relations that are drawn

The links of a layout are the relations of a content and those of its notes, in this order, without
those that lack a place at one end. A message has a row, and none is lost for want of one.
-/

namespace DiagramMarkup

/-- A relation as it is drawn, with the label that its kind may fix. -/
def Relation.drawn (r : Relation) : Relation :=
  { r with label := r.drawnLabel }

/-- Whether both ends of a relation are among some names. -/
def Relation.isPlaced (names : List String) (r : Relation) : Bool :=
  decide (r.source ∈ names) && decide (r.target ∈ names)

theorem Link.isPlaced_iff {α : Type} {l : Layout α} {link : Link α} :
    link.isPlaced l.boxes = true ↔ link.source ∈ l.boxes.keys ∧ link.target ∈ l.boxes.keys := by
  rw [Link.isPlaced, Bool.and_eq_true, Table.contains_iff, Table.contains_iff]

namespace Content

/-- The notes that are laid out with the nodes of a grid. -/
def notes : Content → List Note
  | classes d => d.notes
  | states d => d.notes
  | deployment d => d.notes
  | useCases d => d.notes
  | sequence _ | mindMap _ | entities _ | activity _ => []

/-- The relations of a content, and behind them those between its notes and what they are attached
to. -/
def connections (c : Content) : List Relation :=
  c.relations ++ Note.relations c.notes

variable {α : Type} [Scalar α] {l : Layout α} {c : Content}

omit [Scalar α] in
theorem toRelation_ofStep (steps : List Step) (rows : List α) (full : rows.length = steps.length) :
    ((steps.zip rows).filterMap fun row => Link.ofStep? row.2 row.1).map Link.toRelation =
      (SequenceDiagram.messages { steps }).map fun message => message.toRelation.drawn := by
  induction steps generalizing rows with
  | nil => rfl
  | cons step steps ih =>
      cases rows with
      | nil => cases full
      | cons row rows =>
          have rest := ih rows (Nat.succ.inj full)
          cases step with
          | message message => exact congrArg (message.toRelation.drawn :: ·) rest
          | note note => exact rest
          | divider label => exact rest

theorem toRelation_candidates
    (timed : ∀ d, c = .sequence d → ∃ t, l.timeline = some t ∧ t.rows.length = d.steps.length) :
    (c.candidates l).map Link.toRelation = c.connections.map Relation.drawn := by
  cases c with
  | sequence d =>
      obtain ⟨t, found, rows⟩ := timed d rfl
      have messages := toRelation_ofStep d.steps t.rows rows
      simp only [candidates, found, connections, relations, notes, Note.relations,
        List.filterMap_nil, List.append_nil, List.map_map]
      exact messages
  | classes d | states d | deployment d | useCases d =>
      simp only [candidates, connections, relations, notes, List.map_map]
      rfl
  | mindMap d | activity d | entities d =>
      simp only [candidates, connections, relations, notes, Note.relations, List.filterMap_nil,
        List.append_nil, List.map_map]
      rfl

theorem placed_of_mem_links {link : Link α} (member : link ∈ c.links l) :
    link.source ∈ l.boxes.keys ∧ link.target ∈ l.boxes.keys :=
  Link.isPlaced_iff.mp (List.mem_filter.mp member).2

theorem toRelation_links
    (timed : ∀ d, c = .sequence d → ∃ t, l.timeline = some t ∧ t.rows.length = d.steps.length) :
    (c.links l).map Link.toRelation =
      (c.connections.filter (Relation.isPlaced l.boxes.keys)).map Relation.drawn := by
  have by_relation : c.links l =
      (c.candidates l).filter (Relation.isPlaced l.boxes.keys ∘ Link.toRelation) := rfl
  rw [by_relation, ← List.filter_map, toRelation_candidates timed, List.filter_map]
  rfl

/-- The layout of a conversation has a row for every step. -/
theorem timed_layout {settings : Settings α} {measure : Measure α} (d : SequenceDiagram)
    (same : c = .sequence d) :
    ∃ t, (c.layout settings measure).timeline = some t ∧ t.rows.length = d.steps.length := by
  subst same
  have rooted : (Content.sequence d).Rooted := trivial
  exact (fits_layout rooted).timed d rfl

end Content

end DiagramMarkup
