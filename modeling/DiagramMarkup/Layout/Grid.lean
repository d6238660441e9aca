import DiagramMarkup.Layout.Basic
import DiagramMarkup.Layout.Settings
import DiagramMarkup.Layout.Sizes

/-! # Grids

Elements are placed in rows from left to right. All columns are as wide as the widest element, and
every row is as high as its highest one. In a use case diagram the elements outside of any boundary
come first; every boundary then has rows of its own, so that a frame around its elements holds nothing
else.
-/

namespace DiagramMarkup

open Scalar

/-- An element that waits for its place in a grid. -/
structure GridItem (α : Type) where
  name : String
  size : Size α
  /-- Whether the element starts a row. -/
  startsRow : Bool := false
deriving Repr, DecidableEq

/-- The next place of a grid. -/
structure GridPlace (α : Type) where
  /-- The number of elements that the row holds already. -/
  column : Nat
  top : α
  /-- The height of the row so far. -/
  height : α
deriving Repr, DecidableEq

namespace Grid

variable {α : Type} [Scalar α]

/-- The place that an element gets: the next one, or the first of a new row. -/
def placeFor (settings : Settings α) (item : GridItem α) (place : GridPlace α) : GridPlace α :=
  if place.column = settings.rowLength ∨ (item.startsRow ∧ 0 < place.column) then
    ⟨0, place.top + (place.height + settings.verticalGap), 0⟩
  else place

/-- The box of an element at a place, in a grid of columns of the given width. -/
def boxAt (settings : Settings α) (width : α) (place : GridPlace α) (item : GridItem α) : Box α :=
  let pitch := width + settings.horizontalGap
  { x := settings.margin + (place.column : α) * pitch + width / 2
    y := place.top + item.size.height / 2
    width := item.size.width
    height := item.size.height }

/-- The place behind an element. -/
def placeAfter (item : GridItem α) (place : GridPlace α) : GridPlace α :=
  ⟨place.column + 1, place.top, larger place.height item.size.height⟩

/-- The boxes of elements, from a place on. -/
def boxesFrom (settings : Settings α) (width : α) :
    GridPlace α → List (GridItem α) → List (String × Box α)
  | _, [] => []
  | place, item :: items =>
    let place := placeFor settings item place
    (item.name, boxAt settings width place item) ::
      boxesFrom settings width (placeAfter item place) items

/-- The boxes of elements from the upper left corner on; the widest element gives the width of the
columns. -/
def boxes (settings : Settings α) (items : List (GridItem α)) : Table (Box α) :=
  let width := largest (items.map fun item => item.size.width)
  .ofList (boxesFrom settings width ⟨0, settings.margin, 0⟩ items)

def layout (settings : Settings α) (items : List (GridItem α)) : Layout α :=
  { Layout.empty with boxes := boxes settings items }

end Grid

section

variable {α : Type} [Scalar α]

def Note.gridItems (measure : Measure α) (notes : List Note) : List (GridItem α) :=
  notes.map fun note => ⟨note.name, measure.note note.text, false⟩

def ClassDiagram.layout (settings : Settings α) (measure : Measure α) (d : ClassDiagram) :
    Layout α :=
  Grid.layout settings <|
    d.classes.values.map (fun node => ⟨node.name, node.size measure, false⟩) ++
      Note.gridItems measure d.notes

def EntityDiagram.layout (settings : Settings α) (measure : Measure α) (d : EntityDiagram) :
    Layout α :=
  Grid.layout settings <|
    d.entities.values.map fun entity => ⟨entity.name, entity.size measure, false⟩

def StateDiagram.layout (settings : Settings α) (measure : Measure α) (d : StateDiagram) :
    Layout α :=
  Grid.layout settings <|
    d.states.values.map (fun state => ⟨state.name, state.size measure, false⟩) ++
      Note.gridItems measure d.notes

def DeploymentDiagram.layout (settings : Settings α) (measure : Measure α)
    (d : DeploymentDiagram) : Layout α :=
  Grid.layout settings <|
    d.nodes.values.map (fun device => ⟨device.name, device.size measure, false⟩) ++
      Note.gridItems measure d.notes

end

namespace UseCaseDiagram

variable {α : Type} [Scalar α]

/-- The space between the frame of a boundary and its elements. -/
def boundaryPadding : α :=
  16

/-- The space for the title of a boundary above its elements. -/
def boundaryTitle : α :=
  20

/-- The boundaries in the order in which they first occur. -/
def boundaries (d : UseCaseDiagram) : List String :=
  d.nodes.values.foldl
    (fun seen node =>
      match node.boundary with
      | some name => if name ∈ seen then seen else seen ++ [name]
      | none => seen)
    []

def members (d : UseCaseDiagram) (boundary : String) : List UseCaseNode :=
  d.nodes.values.filter fun node => node.boundary = some boundary

/-- The same elements of a grid, of which the first one starts a row. -/
def startingRow : List (GridItem α) → List (GridItem α)
  | [] => []
  | first :: rest => { first with startsRow := true } :: rest

/-- The elements of the grid: free ones, those of each boundary, notes. -/
def gridItems (measure : Measure α) (d : UseCaseDiagram) : List (GridItem α) :=
  let item (node : UseCaseNode) : GridItem α := ⟨node.name, node.size measure, false⟩
  let free := d.nodes.values.filter fun node => node.boundary.isNone
  let notes := Note.gridItems measure d.notes
  free.map item ++
    d.boundaries.flatMap (fun boundary => startingRow ((d.members boundary).map item)) ++
    (if d.boundaries.isEmpty then notes else startingRow notes)

/-- The settings of the grid, which leave room for the titles of boundaries. -/
def gridSettings (settings : Settings α) (d : UseCaseDiagram) : Settings α :=
  if d.boundaries.isEmpty then settings
  else
    { settings with
      verticalGap := settings.verticalGap + boundaryPadding * 2 + boundaryTitle }

/-- The frame of a boundary around the boxes of its elements. -/
def frame? (boxes : Table (Box α)) (d : UseCaseDiagram) (boundary : String) : Option (Frame α) :=
  let content := (d.members boundary).filterMap fun node => (boxes.get? node.name).map Box.bounds
  (Bounds.unionAll? content).map fun content =>
    Frame.around boundary content boundaryPadding boundaryTitle

/-- Use cases and actors in a grid, with frames for the boundaries. -/
def layout (settings : Settings α) (measure : Measure α) (d : UseCaseDiagram) : Layout α :=
  let boxes := Grid.boxes (d.gridSettings settings) (d.gridItems measure)
  { Layout.empty with boxes, groups := d.boundaries.filterMap (d.frame? boxes) }

end UseCaseDiagram

end DiagramMarkup
