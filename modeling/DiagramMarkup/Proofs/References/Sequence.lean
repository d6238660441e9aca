import DiagramMarkup.Proofs.Reading
import DiagramMarkup.Proofs.References.Linked
import DiagramMarkup.Reading.Sequence

/-! # References of sequence diagrams

The participants of a message or a note are entered before it.
-/

namespace DiagramMarkup

/-- The participants that a step notes something about. -/
def Step.noted : Step → List String
  | .note comment => comment.participants
  | _ => []

namespace SequenceDiagram

/-- The participants of the notes. -/
def noted (d : SequenceDiagram) : List String :=
  d.steps.flatMap Step.noted

/-- A sequence diagram whose messages and notes refer to its participants. -/
abbrev IsLinked (d : SequenceDiagram) : Prop :=
  Linked Participant.name d.participants (d.messages.map Message.toRelation) d.noted

variable {d : SequenceDiagram} {name other : String}

theorem IsLinked.ensure (linked : d.IsLinked) (name : String) : (d.ensure name).IsLinked :=
  Linked.insertNew linked rfl

theorem mem_ensure :
    other ∈ (d.ensure name).participants.keys ↔ other ∈ d.participants.keys ∨ other = name :=
  Table.mem_keys_insertNew

theorem IsLinked.ensureAll (linked : d.IsLinked) (names : List String) :
    (names.foldl SequenceDiagram.ensure d).IsLinked ∧
      ∀ name, name ∈ d.participants.keys ∨ name ∈ names →
        name ∈ (names.foldl SequenceDiagram.ensure d).participants.keys := by
  induction names generalizing d with
  | nil => exact ⟨linked, fun _ member => member.resolve_right List.not_mem_nil⟩
  | cons first names ih =>
      obtain ⟨entered, known⟩ := ih (linked.ensure first)
      refine ⟨entered, fun name member => known name ?_⟩
      rw [mem_ensure, or_assoc, ← List.mem_cons]
      exact member

theorem IsLinked.divider (linked : d.IsLinked) (label : String) :
    (d.addStep (.divider label)).IsLinked := by
  unfold IsLinked addStep messages noted
  rw [List.filterMap_append, List.flatMap_append]
  simp only [List.filterMap_cons, List.filterMap_nil, List.append_nil, List.flatMap_cons,
    List.flatMap_nil, Step.noted]
  exact linked

theorem IsLinked.note (linked : d.IsLinked) (note : SequenceNote)
    (known : note.participants ⊆ d.participants.keys) : (d.addStep (.note note)).IsLinked := by
  unfold IsLinked addStep messages noted
  rw [List.filterMap_append, List.flatMap_append]
  simp only [List.filterMap_cons, List.filterMap_nil, List.append_nil, List.flatMap_cons,
    List.flatMap_nil, Step.noted]
  exact Linked.hold linked (List.append_subset.mpr ⟨linked.known, known⟩)

theorem IsLinked.message (linked : d.IsLinked) (message : Message)
    (source : message.source ∈ d.participants.keys) (target : message.target ∈ d.participants.keys) :
    (d.addStep (.message message)).IsLinked := by
  unfold IsLinked addStep messages noted
  rw [List.filterMap_append, List.flatMap_append, List.map_append]
  simp only [List.filterMap_cons, List.filterMap_nil, List.append_nil, List.flatMap_cons,
    List.flatMap_nil, Step.noted, List.map_singleton]
  exact Linked.relate (r := message.toRelation) linked source target

theorem IsLinked.note? (linked : d.IsLinked) {line : Line} {rest : List Line}
    {next : SequenceDiagram × Remaining rest} (read : d.note? line rest = some next) :
    next.1.IsLinked := by
  unfold SequenceDiagram.note? at read
  split at read
  · cases read
  · dsimp only at read
    split at read
    · cases read
    · cases read
      obtain ⟨entered, known⟩ := linked.ensureAll (d.noteParticipants _ _)
      exact entered.note _ fun name member => known name (.inr member)

theorem IsLinked.declare (linked : d.IsLinked) (kind : ParticipantKind) (declaration : List Char) :
    (d.declare kind declaration).IsLinked := by
  unfold IsLinked SequenceDiagram.declare
  dsimp only
  generalize Phrase.nameAndLabel _ = names
  apply Linked.modify
  · exact Linked.insertNew linked (by rfl)
  · intro participant
    rfl

theorem IsLinked.turn (linked : d.IsLinked) (line : Line) (rest : List Line) :
    (SequenceDiagram.turn d line rest).state.IsLinked := by
  unfold SequenceDiagram.turn
  dsimp only
  split
  · rw [Turn.state_took1]
    exact linked.declare _ _
  · split
    · exact linked.divider _
    · split
      · rename_i read
        exact linked.note? read
      · split
        · apply IsLinked.message ((linked.ensure _).ensure _)
          · exact mem_ensure.mpr (.inl (mem_ensure.mpr (.inr rfl)))
          · exact mem_ensure.mpr (.inr rfl)
        · exact linked

theorem linked_ofLines (lines : List Line) : (ofLines lines).1.IsLinked :=
  readAll_invariant (P := IsLinked) (fun _ line rest linked => linked.turn line rest) .empty lines

/-! ## Notes have participants -/

/-- Every note is about some participant. -/
def IsAnchored (d : SequenceDiagram) : Prop :=
  ∀ note, .note note ∈ d.steps → note.participants ≠ []

theorem steps_ensureAll (names : List String) :
    (names.foldl SequenceDiagram.ensure d).steps = d.steps := by
  induction names generalizing d with
  | nil => rfl
  | cons name names ih => exact ih

theorem IsAnchored.ensureAll (anchored : d.IsAnchored) (names : List String) :
    (names.foldl SequenceDiagram.ensure d).IsAnchored := by
  intro note member
  rw [steps_ensureAll] at member
  exact anchored note member

theorem IsAnchored.addStep {step : Step} (anchored : d.IsAnchored)
    (new : ∀ note, step = .note note → note.participants ≠ []) : (d.addStep step).IsAnchored := by
  intro note member
  rcases List.mem_append.mp member with before | here
  · exact anchored note before
  · exact new note (List.mem_singleton.mp here).symm

theorem IsAnchored.note? (anchored : d.IsAnchored) {line : Line} {rest : List Line}
    {next : SequenceDiagram × Remaining rest} (read : d.note? line rest = some next) :
    next.1.IsAnchored := by
  unfold SequenceDiagram.note? at read
  split at read
  · cases read
  · dsimp only at read
    split at read
    · cases read
    · rename_i some_participant
      cases read
      refine (anchored.ensureAll _).addStep fun note same => ?_
      cases same
      exact fun none => some_participant (List.isEmpty_iff.mpr none)

theorem IsAnchored.turn (anchored : d.IsAnchored) (line : Line) (rest : List Line) :
    (SequenceDiagram.turn d line rest).state.IsAnchored := by
  unfold SequenceDiagram.turn
  dsimp only
  split
  · exact anchored
  · split
    · exact anchored.addStep fun _ none => nomatch none
    · split
      · rename_i read
        exact anchored.note? read
      · split
        · exact IsAnchored.addStep anchored fun _ none => nomatch none
        · exact anchored

theorem anchored_ofLines (lines : List Line) : (ofLines lines).1.IsAnchored :=
  readAll_invariant (P := IsAnchored) (fun _ line rest anchored => anchored.turn line rest)
    (fun _ none => absurd none List.not_mem_nil) lines

end SequenceDiagram

end DiagramMarkup
