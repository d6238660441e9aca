import DiagramMarkup.Geometry.Scalar

/-! # Layout settings -/

namespace DiagramMarkup

/-- The distances that a layout keeps. -/
structure Settings (α : Type) where
  /-- The number of elements in a row of a grid. -/
  columns : Nat
  /-- The space around the whole drawing. -/
  margin : α
  /-- The space between two elements side by side. -/
  horizontalGap : α
  /-- The space between two rows of a grid. -/
  verticalGap : α
  fontSize : α
  /-- The least distance of two lifelines. -/
  lifelineDistance : α
  /-- The least height of the heads of lifelines. -/
  headHeight : α
  /-- The height of a step in a sequence. -/
  stepHeight : α
  /-- The distance between two levels of a mind map. -/
  levelDistance : α
  /-- The space between two topics of a mind map. -/
  topicGap : α
  /-- The least width of a lane. -/
  laneWidth : α
  /-- The height of the title of a lane. -/
  laneTitle : α
  /-- The space between two nodes of an activity. -/
  activityGap : α
  /-- The space between a node of an activity and its note. -/
  noteGap : α
deriving Repr, DecidableEq

namespace Settings

variable {α : Type} [Scalar α]

/-- The settings that hold where nothing else is said. -/
def standard : Settings α where
  columns := 4
  margin := 40
  horizontalGap := 40
  verticalGap := 60
  fontSize := 13
  lifelineDistance := 160
  headHeight := 40
  stepHeight := 50
  levelDistance := 200
  topicGap := 20
  laneWidth := 260
  laneTitle := 30
  activityGap := 30
  noteGap := 30

/-- A row holds one element at least. -/
def rowLength (settings : Settings α) : Nat :=
  max settings.columns 1

end Settings

end DiagramMarkup
