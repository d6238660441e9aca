import DiagramMarkup.Diagram.Note
import DiagramMarkup.Layout.Basic
import DiagramMarkup.Layout.Settings
import DiagramMarkup.Layout.Sizes

/-! # The layout of sequences

The heads of the lifelines stand side by side. Below them every step has a row of its own, and a note
takes as much height as it needs.
-/

namespace DiagramMarkup

open Scalar

namespace SequenceDiagram

variable {α : Type} [Scalar α]

/-- The distance between a lifeline and a note beside it. -/
def noteOffset : α :=
  10

/-- The space that the row of a note leaves above and below the note, together. -/
def noteRowPadding : α :=
  16

/-- The height of all heads: that of the highest one. -/
def headHeight (settings : Settings α) (measure : Measure α) (d : SequenceDiagram) : α :=
  (d.participants.values.map fun p => (p.size measure settings.headHeight).height).foldl larger
    settings.headHeight

/-- The distance between neighbouring lifelines. -/
def pitch (settings : Settings α) (measure : Measure α) (d : SequenceDiagram) : α :=
  let widest :=
    largest (d.participants.values.map fun p => (p.size measure settings.headHeight).width)
  larger (widest + settings.horizontalGap) settings.lifelineDistance

/-- The heads of participants from left to right, from a column on. -/
def headsFrom (settings : Settings α) (measure : Measure α) (pitch headHeight : α) :
    Nat → List Participant → List (String × Box α)
  | _, [] => []
  | column, p :: ps =>
    let box : Box α :=
      { x := settings.margin + (column : α) * pitch + pitch / 2
        y := settings.margin + headHeight / 2
        width := (p.size measure settings.headHeight).width
        height := headHeight }
    (p.name, box) :: headsFrom settings measure pitch headHeight (column + 1) ps

/-- The box of a note in a row, beside or over the lifelines at some places. -/
def noteBox (placement : Placement) (size : Size α) (y first last : α) (many : Bool) : Box α :=
  match placement with
  | .left => ⟨first - noteOffset - size.width / 2, y, size.width, size.height⟩
  | .right => ⟨first + noteOffset + size.width / 2, y, size.width, size.height⟩
  | .above =>
    let span := magnitude (last - first)
    let width := if many then larger size.width (span + noteOffset * 4) else size.width
    ⟨(first + last) / 2, y, width, size.height⟩

/-- What is placed so far: the boxes, the rows of the steps, where the next row starts, and the
number of notes. -/
structure Progress (α : Type) where
  boxes : Table (Box α)
  rows : List α
  next : α
  notes : Nat

/-- Where the lifelines of the participants of a note stand. -/
def anchors (boxes : Table (Box α)) (note : SequenceNote) : List α :=
  note.participants.filterMap fun name => (boxes.get? name).map Box.x

/-- The boxes with that of a note in a row, if one of its participants has a place. -/
def placeNote (boxes : Table (Box α)) (index : Nat) (note : SequenceNote) (size : Size α) (y : α) :
    Table (Box α) :=
  let xs := anchors boxes note
  match xs.head?, xs.getLast? with
  | some first, some last =>
    boxes.insert (Note.nameAt index) (noteBox note.placement size y first last (1 < xs.length))
  | _, _ => boxes

/-- Gives a step its row. -/
def placeStep (settings : Settings α) (measure : Measure α) (p : Progress α) : Step → Progress α
  | .note note =>
    let size := measure.note note.text
    let height := larger settings.stepHeight (size.height + noteRowPadding)
    let y := p.next + height / 2
    { boxes := placeNote p.boxes p.notes note size y
      rows := p.rows ++ [y]
      next := p.next + height
      notes := p.notes + 1 }
  | _ =>
    { p with
      rows := p.rows ++ [p.next + settings.stepHeight / 2]
      next := p.next + settings.stepHeight }

/-- Lifelines side by side, and steps one below the other. -/
def layout (settings : Settings α) (measure : Measure α) (d : SequenceDiagram) : Layout α :=
  let headHeight := d.headHeight settings measure
  let pitch := d.pitch settings measure
  let top := settings.margin
  let heads := Table.ofList (headsFrom settings measure pitch headHeight 0 d.participants.values)
  let p := d.steps.foldl (placeStep settings measure) ⟨heads, [], top + headHeight, 0⟩
  { Layout.empty with
    boxes := p.boxes
    timeline := some
      { top
        headHeight
        rows := p.rows
        lifelineEnd := p.next + settings.stepHeight / 2
        left := settings.margin
        right := settings.margin + (d.participants.size : α) * pitch } }

end SequenceDiagram

end DiagramMarkup
