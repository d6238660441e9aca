/-! # Notes

A note stands free or is attached to an element of a diagram whose elements are laid out in a grid.
Notes and elements share one space of names, so a note whose name is taken gets another one.
-/

namespace DiagramMarkup

/-- A note; `target` names the element that it is attached to. -/
structure Note where
  name : String
  text : String
  target : Option String := none
deriving Repr, DecidableEq

namespace Note

/-- The name of a note that has no alias, from a number. -/
def nameAt (index : Nat) : String :=
  s!"note-{index}"

/-- The candidate if it is free, and otherwise the first free name from the number `next` on, with
the number to go on from. The fuel bounds the names that are tried. -/
def freeName (taken : List String) : (fuel next : Nat) → (candidate : String) → String × Nat
  | 0, next, candidate => (candidate, next)
  | fuel + 1, next, candidate =>
    if candidate ∈ taken then freeName taken fuel (next + 1) (nameAt next) else (candidate, next)

/-- Renames notes, given the names of the nodes, of the notes before them, and the number that the
next generated name is tried with. -/
def renameFrom (nodes earlier : List String) (next : Nat) : List Note → List Note
  | [] => []
  | note :: rest =>
    if note.name ∈ nodes ∨ note.name ∈ earlier then
      let taken := nodes ++ earlier ++ (note :: rest).map name
      let (fresh, next) := freeName taken (taken.length + 1) next (nameAt earlier.length)
      { note with name := fresh } :: renameFrom nodes (earlier ++ [fresh]) next rest
    else note :: renameFrom nodes (earlier ++ [note.name]) next rest

/-- Gives a generated name to every note whose name belongs to a node or to an earlier note. -/
def renameColliding (nodes : List String) (notes : List Note) : List Note :=
  renameFrom nodes [] notes.length notes

end Note

end DiagramMarkup
