import DiagramMarkup.Json.Record
import DiagramMarkup.Layout.Basic

/-! # The written form of layouts -/

namespace DiagramMarkup

open Json

def Box.ofJson? (j : Json) : Option (Box Float) := do
  guard (j.isRecord 4)
  let x ← j.required 0 "x" float?
  let y ← j.required 1 "y" float?
  let width ← j.required 2 "width" float?
  let height ← j.required 3 "height" float?
  return { x, y, width, height }

def Frame.ofJson? (j : Json) : Option (Frame Float) := do
  guard (j.isRecord 5)
  let name ← j.required 0 "name" string?
  let left ← j.required 1 "x" float?
  let top ← j.required 2 "y" float?
  let width ← j.required 3 "width" float?
  let height ← j.required 4 "height" float?
  return { name, left, top, width, height }

def Timeline.ofJson? (j : Json) : Option (Timeline Float) := do
  guard (j.isRecord 6)
  let top ← j.required 0 "top" float?
  let headHeight ← j.required 1 "header_height" float?
  let rows ← j.required 2 "rows" (list? float?)
  let lifelineEnd ← j.required 3 "lifeline_end" float?
  let left ← j.required 4 "left" float?
  let right ← j.required 5 "right" float?
  return { top, headHeight, rows, lifelineEnd, left, right }

def Bounds.ofJson? (j : Json) : Option (Bounds Float) := do
  guard (j.isRecord 4)
  let left ← j.required 0 "min_x" float?
  let top ← j.required 1 "min_y" float?
  let right ← j.required 2 "max_x" float?
  let bottom ← j.required 3 "max_y" float?
  return { left, top, right, bottom }

def Layout.ofJson? (j : Json) : Option (Layout Float) := do
  guard (j.isRecord 5)
  let boxes ← j.required 0 "nodes" (table? Box.ofJson?)
  let lanes ← j.required 1 "lanes" (list? Frame.ofJson?)
  let groups ← j.required 2 "groups" (list? Frame.ofJson?)
  let timeline ← j.optionalAt 3 "sequence" Timeline.ofJson?
  let bounds ← j.required 4 "bounds" Bounds.ofJson?
  return { boxes, lanes, groups, timeline, bounds }

end DiagramMarkup
