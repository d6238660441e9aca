import DiagramMarkup.Proofs.Drawing.Fits
import DiagramMarkup.Proofs.Notes.Names
import DiagramMarkup.Proofs.References.Sequence

/-! # The columns of a conversation

The participants stand side by side. Notes are entered into the table of their heads, under numbered
names, so that a participant keeps the head of its column unless it has the name of a note.
-/

namespace DiagramMarkup

open Scalar

namespace SequenceDiagram

/-! ## The names of notes -/

def notes (d : SequenceDiagram) : List SequenceNote :=
  d.steps.filterMap fun
    | .note note => some note
    | _ => none

/-- The names under which the notes are drawn. -/
def noteNames (d : SequenceDiagram) : List String :=
  noteNamesFrom 0 d.steps

theorem noteNamesFrom_eq (first : Nat) (steps : List Step) :
    noteNamesFrom first steps = (List.range' first (notes { steps }).length).map Note.nameAt := by
  induction steps generalizing first with
  | nil => rfl
  | cons step steps ih =>
      cases step with
      | message message => exact ih first
      | divider label => exact ih first
      | note note => exact congrArg (Note.nameAt first :: ·) (ih (first + 1))

theorem length_noteNames (d : SequenceDiagram) : d.noteNames.length = d.notes.length := by
  rw [noteNames, noteNamesFrom_eq, List.length_map, List.length_range']
  rfl

theorem nameAt_not_mem {index first : Nat} (before : index < first) (steps : List Step) :
    Note.nameAt index ∉ noteNamesFrom first steps := by
  rw [noteNamesFrom_eq]
  intro member
  obtain ⟨later, inside, same⟩ := List.mem_map.mp member
  have bound := (List.mem_range'_1.mp inside).1
  rw [Note.nameAt_injective same] at bound
  omega

/-! ## Heads -/

variable {α : Type} [Scalar α] {settings : Settings α} {measure : Measure α} {d : SequenceDiagram}
  {name : String}

/-- The head of a participant in a column. -/
def headBox (settings : Settings α) (measure : Measure α) (d : SequenceDiagram) (column : Nat)
    (p : Participant) : Box α where
  x := settings.margin + (column : α) * d.pitch settings measure + d.pitch settings measure / 2
  y := settings.margin + d.headHeight settings measure / 2
  width := (p.size measure settings.headHeight).width
  height := d.headHeight settings measure

/-- The boxes before any note is placed. -/
def heads (settings : Settings α) (measure : Measure α) (d : SequenceDiagram) : Table (Box α) :=
  .ofList <| headsFrom settings measure (d.pitch settings measure) (d.headHeight settings measure) 0
    d.participants.values

theorem getElem?_headsFrom (first column : Nat) (participants : List Participant) :
    (headsFrom settings measure (d.pitch settings measure) (d.headHeight settings measure) first
        participants)[column]? =
      participants[column]?.map fun p => (p.name, d.headBox settings measure (first + column) p) := by
  induction participants generalizing first column with
  | nil => rfl
  | cons p participants ih =>
      cases column with
      | zero => rfl
      | succ column =>
          rw [headsFrom, List.getElem?_cons_succ, ih, List.getElem?_cons_succ, Nat.add_right_comm,
            Nat.add_assoc]

theorem entries_heads (keyed : d.participants.Keyed Participant.name) :
    (d.heads settings measure).entries =
      headsFrom settings measure (d.pitch settings measure) (d.headHeight settings measure) 0
        d.participants.values := by
  apply Table.entries_ofList
  rw [map_fst_headsFrom, ← keyed.keys_eq]
  exact d.participants.nodup_keys

theorem keys_heads (keyed : d.participants.Keyed Participant.name) :
    (d.heads settings measure).keys = d.participants.keys := by
  rw [Table.keys, entries_heads keyed, map_fst_headsFrom, ← keyed.keys_eq]

theorem get?_heads (keyed : d.participants.Keyed Participant.name) {column : Nat} {p : Participant}
    (here : d.participants.values[column]? = some p) :
    (d.heads settings measure).get? p.name = some (d.headBox settings measure column p) := by
  apply Table.get?_of_mem
  rw [entries_heads keyed]
  apply List.mem_of_getElem? (i := column)
  rw [getElem?_headsFrom, here, Nat.zero_add]
  rfl

/-! ## Steps -/

theorem get?_placeNote_of_ne {index : Nat} (apart : name ≠ Note.nameAt index)
    (boxes : Table (Box α)) (note : SequenceNote) (size : Size α) (y : α) :
    (placeNote boxes index note size y).get? name = boxes.get? name := by
  unfold placeNote
  dsimp only
  split
  · exact Table.get?_insert_of_ne apart
  · rfl

/-- No step changes the box under a name that is not that of a note. -/
theorem get?_foldl_placeStep {steps : List Step} {p : Progress α}
    (apart : name ∉ noteNamesFrom p.notes steps) :
    (steps.foldl (placeStep settings measure) p).boxes.get? name = p.boxes.get? name := by
  induction steps generalizing p with
  | nil => rfl
  | cons step steps ih =>
      rw [List.foldl_cons]
      cases step with
      | message message => exact ih apart
      | divider label => exact ih apart
      | note note =>
          rw [noteNamesFrom, List.mem_cons, not_or] at apart
          rw [ih apart.2]
          exact get?_placeNote_of_ne apart.1 p.boxes note _ _

/-- A note about someone who has a box gets one. -/
theorem exists_placeNote {boxes : Table (Box α)} {note : SequenceNote}
    (participant : name ∈ note.participants) (known : name ∈ boxes.keys) (index : Nat)
    (size : Size α) (y : α) :
    ∃ first last many, placeNote boxes index note size y =
      boxes.insert (Note.nameAt index) (noteBox note.placement size y first last many) := by
  obtain ⟨box, found⟩ := Table.exists_get? known
  have some_anchor : anchors boxes note ≠ [] := by
    apply List.ne_nil_of_mem (a := box.x)
    exact List.mem_filterMap.mpr ⟨name, participant, by rw [found, Option.map_some]⟩
  unfold placeNote
  dsimp only
  rw [List.head?_eq_some_head some_anchor, List.getLast?_eq_some_getLast some_anchor]
  exact ⟨_, _, _, rfl⟩

theorem keys_placeNote_of_mem {boxes : Table (Box α)} {note : SequenceNote}
    (participant : name ∈ note.participants) (known : name ∈ boxes.keys) (index : Nat)
    (size : Size α) (y : α) :
    (placeNote boxes index note size y).keys =
      if Note.nameAt index ∈ boxes.keys then boxes.keys else boxes.keys ++ [Note.nameAt index] := by
  obtain ⟨first, last, many, same⟩ := exists_placeNote participant known index size y
  rw [same]
  exact Table.keys_insert boxes _ _

theorem keys_foldl_placeStep {steps : List Step} {p : Progress α}
    (anchored : ∀ note, .note note ∈ steps → ∃ name ∈ note.participants, name ∈ p.boxes.keys) :
    (steps.foldl (placeStep settings measure) p).boxes.keys =
      p.boxes.keys ++ (noteNamesFrom p.notes steps).filter fun name => name ∉ p.boxes.keys := by
  induction steps generalizing p with
  | nil => exact (List.append_nil _).symm
  | cons step steps ih =>
      rw [List.foldl_cons]
      have later (note : SequenceNote) (member : .note note ∈ steps) :=
        anchored note (List.mem_cons_of_mem step member)
      cases step with
      | message message => exact ih later
      | divider label => exact ih later
      | note note =>
          obtain ⟨participant, named, known⟩ := anchored note List.mem_cons_self
          have entered : (placeStep settings measure p (.note note)).boxes.keys =
              if Note.nameAt p.notes ∈ p.boxes.keys then p.boxes.keys
              else p.boxes.keys ++ [Note.nameAt p.notes] :=
            keys_placeNote_of_mem named known p.notes _ _
          have anchored' (other : SequenceNote) (member : .note other ∈ steps) :
              ∃ name ∈ other.participants,
                name ∈ (placeStep settings measure p (.note note)).boxes.keys := by
            obtain ⟨name, named, known⟩ := later other member
            exact ⟨name, named, (keys_placeNote p.boxes p.notes note _ _).1 known⟩
          rw [ih anchored', noteNamesFrom, List.filter_cons, entered]
          by_cases taken : Note.nameAt p.notes ∈ p.boxes.keys
          · simp only [taken, if_true, not_true_eq_false, decide_false, Bool.false_eq_true, if_false]
            rfl
          · -- No later note has the name of this one.
            have others : ∀ name ∈ noteNamesFrom (p.notes + 1) steps,
                decide (name ∉ p.boxes.keys ++ [Note.nameAt p.notes]) =
                  decide (name ∉ p.boxes.keys) := by
              intro name member
              have apart : name ≠ Note.nameAt p.notes := by
                rintro rfl
                exact nameAt_not_mem (Nat.lt_succ_self _) steps member
              simp only [List.mem_append, List.mem_singleton, apart, or_false]
            simp only [taken, if_false, not_false_eq_true, decide_true, if_true, List.append_assoc]
            exact congrArg (p.boxes.keys ++ Note.nameAt p.notes :: ·) (List.filter_congr others)

end SequenceDiagram

/-! ## The whole layout -/

namespace Layout

variable {α : Type} [Scalar α]

/-- How a box is moved with its layout onto a margin. -/
def moved (margin : α) (l : Layout α) : Box α → Box α :=
  match Bounds.unionAll? l.contents with
  | none => id
  | some content =>
    let dx := margin - content.left
    let dy := margin - content.top
    if epsilon < magnitude dx ∨ epsilon < magnitude dy then Box.shift dx dy else id

theorem get?_finish (margin : α) (l : Layout α) (name : String) :
    (l.finish margin).boxes.get? name = (l.boxes.get? name).map (l.moved margin) := by
  cases spanned : Bounds.unionAll? l.contents with
  | none => simp only [finish, moved, spanned, Option.map_id, id]
  | some content =>
      simp only [finish, moved, spanned]
      split
      · exact Table.get?_map _ name
      · simp only [Option.map_id, id]

end Layout

namespace SequenceDiagram

/-- The boxes of a conversation. -/
structure Columns {α : Type} [Scalar α] (settings : Settings α) (measure : Measure α)
    (d : SequenceDiagram) (l : Layout α) : Prop where
  /-- Every participant has a box, and so has every note under another name. -/
  keys : l.boxes.keys =
    d.participants.keys ++ d.noteNames.filter fun name => name ∉ d.participants.keys
  /-- There is one box for every participant and one for every note just where no two have one
  name. -/
  size : l.boxes.size = d.participants.size + d.notes.length ↔
    d.participants.keys.Disjoint d.noteNames
  /-- Where no note has its name, a participant has the head of its column. -/
  heads : ∀ column p, d.participants.values[column]? = some p → p.name ∉ d.noteNames →
    l.boxes.get? p.name =
      some ((d.layout settings measure).moved settings.margin (d.headBox settings measure column p))

variable {α : Type} [Scalar α] {d : SequenceDiagram}

theorem boxes_layout (settings : Settings α) (measure : Measure α) (d : SequenceDiagram) :
    (d.layout settings measure).boxes =
      (d.steps.foldl (placeStep settings measure)
        ⟨d.heads settings measure, [], settings.margin + d.headHeight settings measure, 0⟩).boxes :=
  rfl

theorem columns_layout (linked : d.IsLinked) (anchored : d.IsAnchored) (settings : Settings α)
    (measure : Measure α) :
    d.Columns settings measure ((Content.sequence d).layout settings measure) := by
  have head_keys : (d.heads settings measure).keys = d.participants.keys := keys_heads linked.keyed
  have keys : ((Content.sequence d).layout settings measure).boxes.keys =
      d.participants.keys ++ d.noteNames.filter fun name => name ∉ d.participants.keys := by
    have known (note : SequenceNote) (member : .note note ∈ d.steps) :
        ∃ name ∈ note.participants, name ∈ (d.heads settings measure).keys := by
      obtain ⟨name, named⟩ := List.exists_mem_of_ne_nil _ (anchored note member)
      refine ⟨name, named, ?_⟩
      rw [head_keys]
      exact linked.known (List.mem_flatMap.mpr ⟨_, member, named⟩)
    rw [Content.layout, Layout.keys_finish, Content.rawLayout, boxes_layout,
      keys_foldl_placeStep known, head_keys]
    rfl
  refine { keys, size := ?size, heads := ?heads }
  case size =>
    have size : ((Content.sequence d).layout settings measure).boxes.size =
        d.participants.size +
          (d.noteNames.filter fun name => name ∉ d.participants.keys).length := by
      rw [← Table.length_keys, keys, List.length_append, Table.length_keys]
    rw [size, Nat.add_left_cancel_iff, ← length_noteNames, List.length_filter_eq_length_iff]
    simp only [decide_eq_true_eq]
    exact List.disjoint_right.symm
  case heads =>
    intro column p here apart
    rw [Content.layout, Layout.get?_finish, Content.rawLayout, boxes_layout,
      get?_foldl_placeStep apart, get?_heads linked.keyed here]
    rfl

end SequenceDiagram

end DiagramMarkup
