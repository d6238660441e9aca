import DiagramMarkup.Json.Record
import DiagramMarkup.Json.Selection
import DiagramMarkup.Layout.Settings

/-! # The written form of layout settings

Settings that are left out keep their usual values, and unknown ones do not matter. None may be given
twice.
-/

namespace DiagramMarkup

open Json

namespace Settings

/-- The keys of the settings in their order. -/
def keys : List String :=
  ["gridColumns", "margin", "horizontalGap", "verticalGap", "fontSize", "sequenceColumnWidth",
    "sequenceHeaderHeight", "sequenceRowHeight", "mindmapLevelDistance", "mindmapRowGap",
    "laneWidth", "laneHeaderHeight", "activityGap", "noteGap"]

/-- Whether some setting is given twice. -/
def hasRepeated : Json → Bool
  | object fields => keys.any fun key => 1 < fields.countP fun field => field.1 = key
  | _ => false

/-- Reads settings. What is not given has its usual value. -/
def ofJson? (j : Json) : Option (Settings Float) := do
  guard (j.isRecord keys.length && !hasRepeated j)
  let usual : Settings Float := standard
  let number (place : Nat) (key : String) (default : Float) : Option Float :=
    j.withDefault place key float? default
  return {
    columns := ← j.withDefault 0 "gridColumns" natural? usual.columns
    margin := ← number 1 "margin" usual.margin
    horizontalGap := ← number 2 "horizontalGap" usual.horizontalGap
    verticalGap := ← number 3 "verticalGap" usual.verticalGap
    fontSize := ← number 4 "fontSize" usual.fontSize
    lifelineDistance := ← number 5 "sequenceColumnWidth" usual.lifelineDistance
    headHeight := ← number 6 "sequenceHeaderHeight" usual.headHeight
    stepHeight := ← number 7 "sequenceRowHeight" usual.stepHeight
    levelDistance := ← number 8 "mindmapLevelDistance" usual.levelDistance
    topicGap := ← number 9 "mindmapRowGap" usual.topicGap
    laneWidth := ← number 10 "laneWidth" usual.laneWidth
    laneTitle := ← number 11 "laneHeaderHeight" usual.laneTitle
    activityGap := ← number 12 "activityGap" usual.activityGap
    noteGap := ← number 13 "noteGap" usual.noteGap }

/-- Reads settings from a text, of which only the known keys matter. -/
def ofText? (text : String) : Option (Settings Float) :=
  (Json.chosenOfText? keys text).bind ofJson?

end Settings

end DiagramMarkup
