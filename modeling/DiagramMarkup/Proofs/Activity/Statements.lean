import DiagramMarkup.Proofs.Activity.Nesting
import DiagramMarkup.Proofs.Reading

/-! # What the lines of an activity say

What a line says, and how many of the lines below belong to it, can be told from the lines alone. What
was read before it decides only whether it is allowed there. So the lines fall into constructs, each a
line together with those below that it takes, before anything is read.
-/

namespace DiagramMarkup.ActivityDiagram

open Text Pattern

/-- A node as a line describes it: without a lane, a partition or a note. -/
abbrev BareNode : Type :=
  { node : ActivityNode // node.core = node }

/-- What a line says. -/
inductive Statement where
  /-- There is a node that stands alone. -/
  | alone (node : BareNode)
  | opens (kind : FrameKind) (node : BareNode)
  /-- Another branch starts, or else the line is skipped for the reason. -/
  | separates (kind : FrameKind) (node : BareNode) (reason : String)
  /-- A construct ends, or else the line is skipped for the reason. -/
  | closes (kind : FrameKind) (label : Option String) (reason : String)
  /-- There is an action, whose text begins with the given one. -/
  | action (first : List Char)
  | switchesLane (name : String)
  | opensPartition (name : String)
  | closesPartition
  /-- There is a note, with its text if that stands on the line. -/
  | note (words : Option (List Char))
  | unknown

namespace Statement

/-- What a line says that is understood as a whole. -/
def ofFixed? (text : String) : Option Statement :=
  match text with
  | "start" => some (.alone ⟨bareNode .start "Start".toList, rfl⟩)
  | "stop" | "end" | "kill" | "detach" => some (.alone ⟨bareNode .stop "End".toList, rfl⟩)
  | "fork" => some (.opens .fork ⟨bareNode .fork, rfl⟩)
  | "fork again" =>
    some (.separates .fork ⟨bareNode .forkAgainMarker, rfl⟩ "`fork again` outside of a fork")
  | "end fork" | "endfork" | "end merge" =>
    some (.closes .fork none "`end fork` without a matching fork")
  | "endif" | "end if" => some (.closes .conditional none "`endif` without a matching if")
  | "\x7d" => some .closesPartition
  | _ => none

/-- What a line says that starts with a keyword. -/
def ofPattern (s : List Char) : Statement :=
  if let some (words, label) := ifPattern.read? s then
    .opens .conditional
      ⟨{ bareNode .decision (trim words) with yesBranch := branchLabel? label }, rfl⟩
  else if let some (words, label) := elseifPattern.read? s then
    .separates .conditional
      ⟨{ bareNode .elseifMarker (trim words) with branchLabel := branchLabel? label }, rfl⟩
      "`elseif` outside of an if"
  else if let some label := elsePattern.read? s then
    .separates .conditional
      ⟨{ bareNode .elseMarker with branchLabel := branchLabel? label }, rfl⟩
      "`else` outside of an if"
  else if let some (words, label) := whilePattern.read? s then
    .opens .loop
      ⟨{ bareNode .decision (trim words) with looping := true, yesBranch := branchLabel? label }, rfl⟩
  else if let some label := endWhilePattern.read? s then
    .closes .loop (branchLabel? label) "`endwhile` without a matching while"
  else if let some name := lanePattern.read? s then .switchesLane (String.ofList (trim name))
  else if let some name := partitionPattern.read? s then
    .opensPartition (String.ofList (unquote name))
  else if let some words := notePattern.read? s then .note words
  else .unknown

def ofLine (line : Line) : Statement :=
  match ofFixed? line.text with
  | some statement => statement
  | none =>
    match after? [':'] line.chars with
    | some first => .action first
    | none => ofPattern line.chars

/-- Whether a statement tells only where nodes are drawn and what is noted beside them. -/
def isContext : Statement → Bool
  | switchesLane _ | opensPartition _ | closesPartition | note _ => true
  | _ => false

/-- The turn that a statement takes. -/
def turn {rest : List Line} (draft : Draft) : Statement → Turn Draft rest
  | alone node => .took1 (draft.push node)
  | opens kind node => .took1 (draft.openFrame kind node)
  | separates kind node reason => ifAllowed draft (draft.mark? kind node) reason
  | closes kind label reason => ifAllowed draft (draft.close? kind label) reason
  | action first => readAction draft first
  | switchesLane name => .took1 (draft.switchLane name)
  | opensPartition name => .took1 (draft.openPartition name)
  | closesPartition => ifAllowed draft draft.closePartition? "unbalanced `\x7d`"
  | note words => readNote draft words
  | unknown => .skip draft "unrecognized activity diagram line"

variable {draft : Draft} {rest : List Line}

theorem fixedLine?_eq (draft : Draft) (rest : List Line) (text : String) :
    (fixedLine? draft text : Option (Turn Draft rest)) = (ofFixed? text).map (turn draft) := by
  fun_cases ofFixed? text
  case case14 => simp only [fixedLine?, Option.map_none]
  all_goals rfl

theorem patternLine_eq (draft : Draft) (rest : List Line) (s : List Char) :
    (patternLine draft s : Turn Draft rest) = turn draft (ofPattern s) := by
  unfold patternLine ofPattern
  cases ifPattern.read? s with
  | some read => rfl
  | none =>
      cases elseifPattern.read? s with
      | some read => rfl
      | none =>
          cases elsePattern.read? s with
          | some read => rfl
          | none =>
              cases whilePattern.read? s with
              | some read => rfl
              | none =>
                  cases endWhilePattern.read? s with
                  | some read => rfl
                  | none =>
                      cases lanePattern.read? s with
                      | some read => rfl
                      | none =>
                          cases partitionPattern.read? s with
                          | some read => rfl
                          | none => cases notePattern.read? s <;> rfl

theorem turn_eq (draft : Draft) (line : Line) (rest : List Line) :
    ActivityDiagram.turn draft line rest = turn draft (ofLine line) := by
  unfold ActivityDiagram.turn ofLine
  rw [fixedLine?_eq]
  cases ofFixed? line.text with
  | some statement => rfl
  | none =>
      cases after? [':'] line.chars with
      | some first => rfl
      | none => exact patternLine_eq draft rest line.chars

theorem left_ifAllowed (next : Option Draft) (reason : String) :
    (ifAllowed draft next reason : Turn Draft rest).left = .all rest := by
  cases next <;> rfl

/-- What a statement leaves does not depend on what was read before it. -/
theorem left_turn (statement : Statement) (draft other : Draft) :
    (turn draft statement : Turn Draft rest).left = (turn other statement).left := by
  cases statement with
  | separates | closes | closesPartition => exact (left_ifAllowed _ _).trans (left_ifAllowed _ _).symm
  | note words => cases words <;> rfl
  | alone | opens | action | switchesLane | opensPartition | unknown => rfl

/-- The lines below a statement that it leaves. -/
def left (statement : Statement) (rest : List Line) : Remaining rest :=
  (turn {} statement : Turn Draft rest).left

end Statement

theorem left_eq (draft : Draft) (line : Line) (rest : List Line) :
    (turn draft line rest).left = (Statement.ofLine line).left rest := by
  rw [Statement.turn_eq]
  exact Statement.left_turn _ draft {}

/-! ## Constructs -/

/-- A statement with its lines: the one that makes it and those below that belong to it. -/
structure Construct where
  statement : Statement
  lines : List Line

/-- The constructs that some lines fall into. -/
def constructs : List Line → List Construct
  | [] => []
  | line :: rest =>
    let statement := Statement.ofLine line
    let left := statement.left rest
    ⟨statement, line :: Remaining.taken left⟩ :: constructs left.1
termination_by lines => lines.length
decreasing_by exact Nat.lt_succ_of_le ((Statement.ofLine line).left rest).2.length_le

theorem constructs_cons (line : Line) (rest : List Line) :
    constructs (line :: rest) =
      ⟨.ofLine line, line :: Remaining.taken ((Statement.ofLine line).left rest)⟩ ::
        constructs ((Statement.ofLine line).left rest).1 := by
  rw [constructs]

/-- What holds without lines, and above the lines that a statement leaves, holds for all lines. -/
@[elab_as_elim]
theorem constructs_induction {motive : List Line → Prop} (nil : motive [])
    (cons : ∀ line rest, motive ((Statement.ofLine line).left rest).1 → motive (line :: rest))
    (lines : List Line) : motive lines := by
  induction lines using constructs.induct with
  | case1 => exact nil
  | case2 line rest _ _ ih => exact cons line rest ih

theorem flatMap_constructs (lines : List Line) : (constructs lines).flatMap Construct.lines = lines := by
  induction lines using constructs_induction with
  | nil => rw [constructs, List.flatMap_nil]
  | cons line rest ih =>
      rw [constructs_cons, List.flatMap_cons, ih, List.cons_append, Remaining.taken_append]

end DiagramMarkup.ActivityDiagram
