import DiagramMarkup.Diagram.ActivityFlow
import DiagramMarkup.Phrase.GridNote

/-! # Reading activity diagrams

The lines build up the list of nodes. Every open decision, loop and fork stands in a stack, and each
of their closing lines fits only the innermost one; those still open at the end are closed there.
-/

namespace DiagramMarkup.ActivityDiagram

open Text Pattern Phrase

/-- A construct that has to be closed. -/
inductive FrameKind
  | conditional
  | loop
  | fork
deriving Repr, DecidableEq

/-- A construct that is open, with the name of the node that opened it. -/
structure Frame where
  kind : FrameKind
  opener : String
deriving Repr, DecidableEq

/-- What has been read of an activity. -/
structure Draft where
  nodes : List ActivityNode := []
  swimlanes : List Swimlane := []
  partitions : List Partition := []
  /-- The open constructs, the innermost first. -/
  frames : List Frame := []
  lane : Option String := none
  /-- The places of the open partitions, the innermost first. -/
  openPartitions : List Nat := []
deriving Repr, DecidableEq

def changeFirst {α : Type} (test : α → Bool) (f : α → α) : List α → List α
  | [] => []
  | a :: rest => if test a then f a :: rest else a :: changeFirst test f rest

def changeLast {α : Type} (test : α → Bool) (f : α → α) (items : List α) : List α :=
  (changeFirst test f items.reverse).reverse

namespace Draft

/-- The name of the innermost open partition. -/
def partition? (draft : Draft) : Option String :=
  (draft.openPartitions.head?.bind fun place => draft.partitions[place]?).map Partition.name

def nextName (draft : Draft) : String :=
  s!"a{draft.nodes.length}"

/-- Adds a node in the current lane and partition, under the next name. -/
def push (draft : Draft) (node : ActivityNode) : Draft :=
  let place := draft.nodes.length
  { draft with
    nodes := draft.nodes ++ [{ node with
      name := draft.nextName, lane := draft.lane, partition := draft.partition? }]
    swimlanes := changeFirst (fun lane => some lane.name = draft.lane)
      (fun lane => { lane with last := place }) draft.swimlanes }

/-- Adds a node that opens a construct. -/
def openFrame (draft : Draft) (kind : FrameKind) (node : ActivityNode) : Draft :=
  { draft.push node with frames := ⟨kind, draft.nextName⟩ :: draft.frames }

/-- Adds a marker that starts another branch of the innermost construct; there is none if that is of
another kind. -/
def mark? (draft : Draft) (kind : FrameKind) (node : ActivityNode) : Option Draft :=
  match draft.frames with
  | [] => none
  | frame :: _ =>
    if frame.kind = kind then some (draft.push { node with opener := some frame.opener }) else none

/-- Adds the merge or join that closes a construct. -/
def pushClosing (draft : Draft) (frame : Frame) (label : Option String) : Draft :=
  draft.push {
    name := ""
    kind := if frame.kind = .fork then .join else .merge
    label := ""
    opener := some frame.opener
    looping := frame.kind = .loop
    branchLabel := nonempty? label }

/-- Closes the innermost construct, unless it is of another kind. -/
def close? (draft : Draft) (kind : FrameKind) (label : Option String) : Option Draft :=
  match draft.frames with
  | [] => none
  | frame :: frames =>
    if frame.kind = kind then some ({ draft with frames }.pushClosing frame label) else none

/-- Goes on in a lane, which starts at the next node unless it is known. -/
def switchLane (draft : Draft) (name : String) : Draft :=
  let next := draft.nodes.length
  let known := draft.swimlanes.any fun lane => lane.name = name
  { draft with
    swimlanes := if known then draft.swimlanes else draft.swimlanes ++ [⟨name, next, next⟩]
    lane := some name }

/-- Opens a partition inside of the innermost open one. -/
def openPartition (draft : Draft) (name : String) : Draft :=
  let next := draft.nodes.length
  { draft with
    partitions := draft.partitions ++ [⟨name, next, next, draft.partition?⟩]
    openPartitions := draft.partitions.length :: draft.openPartitions }

/-- Ends a partition before the next node. -/
def endPartition (draft : Draft) (place : Nat) : Draft :=
  { draft with
    partitions := draft.partitions.modify place fun p => { p with stop := draft.nodes.length } }

/-- Closes the innermost partition, if one is open. -/
def closePartition? (draft : Draft) : Option Draft :=
  match draft.openPartitions with
  | [] => none
  | place :: places => some { draft.endPartition place with openPartitions := places }

/-- Writes a note to the last node that is drawn, below the notes that it has. -/
def attachNote (draft : Draft) (text : String) : Draft :=
  let write (node : ActivityNode) : ActivityNode :=
    { node with note := some ((node.note.map fun old => old ++ "\n" ++ text).getD text) }
  { draft with nodes := changeLast (fun node => !node.isMarker) write draft.nodes }

/-- Closes everything that is open, the innermost construct first. -/
def finish (draft : Draft) : ActivityDiagram :=
  let closed := draft.frames.foldl (fun draft frame => draft.pushClosing frame none) draft
  let ended := closed.openPartitions.foldl endPartition closed
  { nodes := ended.nodes, swimlanes := ended.swimlanes, partitions := ended.partitions }

end Draft

/-- A text in parentheses without a closing one inside, with blanks before it. -/
def inParentheses : Pattern (List Char) := do
  blanks
  char '('
  let inner ← run (· ≠ ')')
  char ')'
  return inner

/-- A condition in parentheses, inside which others may stand; as long or as short as possible. -/
def condition (inside : Pattern (List Char)) : Pattern (List Char) := do
  blanks
  char '('
  let words ← inside
  char ')'
  return words

/-- A condition and the text of its branch behind the word for it: the one behind `then` wins over
the one behind `is`. -/
def branchPattern : Pattern (List Char × Option (List Char)) := do
  let words ← condition (most inLine)
  blanks
  let value ← optional do
    let _ ← text "is"
    let inner ← inParentheses
    blanks
    return inner
  let _ ← text "then"
  let label ← optional inParentheses
  ended
  return (words, label.or value)

/-- The start of a branch, with its condition and the label of its first way. -/
def ifPattern : Pattern (List Char × Option (List Char)) := do
  let _ ← text "if"
  branchPattern

/-- A further condition of a branch. -/
def elseifPattern : Pattern (List Char × Option (List Char)) := do
  let _ ← text "else"
  blanks
  let _ ← text "if"
  branchPattern

/-- The last way of a branch. -/
def elsePattern : Pattern (Option (List Char)) := do
  let _ ← text "else"
  let label ← optional inParentheses
  ended
  return label

/-- The start of a loop, with its condition and the label of its way on. -/
def whilePattern : Pattern (List Char × Option (List Char)) := do
  let _ ← text "while"
  let words ← condition (fewest inLine)
  blanks
  let label ← optional do
    let _ ← text "is"
    inParentheses
  ended
  return (words, label)

/-- The end of a loop, with the label of the way out. -/
def endWhilePattern : Pattern (Option (List Char)) := do
  let _ ← text "end"
  blanks
  let _ ← text "while"
  let label ← optional inParentheses
  ended
  return label

/-- A lane, perhaps with a colour in front of its name. -/
def lanePattern : Pattern (List Char) := do
  char '|'
  let _ ← optional do
    char '#'
    let _ ← run (· ≠ '|')
    char '|'
  let name ← run1 (· ≠ '|')
  char '|'
  ended
  return name

/-- The start of a partition, whose name ends at a brace or a colour. -/
def partitionPattern : Pattern (List Char) := do
  let _ ← anyOf ["partition", "group"]
  let _ ← most1 isBlank
  let name ← quotedName <|> fewest1 (· ≠ '{')
  blanks
  let _ ← optional do
    char '#'
    let _ ← run1 isWord
    blanks
  let _ ← optional (char '{')
  ended
  return name

/-- The first line of a note, with its text if that stands behind a colon. -/
def notePattern : Pattern (Option (List Char)) := do
  let _ ← optional do
    let _ ← text "floating"
    blanks1
  let _ ← text "note"
  blanks1
  let _ ← optional (anyOf ["left", "right", "top", "bottom"])
  blanks
  let words ← optional inlineText
  ended
  return words

def branchLabel? (s : Option (List Char)) : Option String :=
  nonempty? (s.map fun s => String.ofList (trim s))

/-- A node about which nothing but its kind and label is known. -/
def bareNode (kind : ActivityKind) (label : List Char := []) : ActivityNode :=
  { name := "", kind, label := String.ofList label }

/-- A line that is understood if the draft allows it, and skipped for a reason otherwise. -/
def ifAllowed {rest : List Line} (draft : Draft) (next : Option Draft) (reason : String) :
    Turn Draft rest :=
  match next with
  | some next => .took1 next
  | none => .skip draft reason

/-- A line that is one of the fixed words. -/
def fixedLine? {rest : List Line} (draft : Draft) (text : String) : Option (Turn Draft rest) :=
  match text with
  | "start" => some (.took1 (draft.push (bareNode .start "Start".toList)))
  | "stop" | "end" | "kill" | "detach" => some (.took1 (draft.push (bareNode .stop "End".toList)))
  | "fork" => some (.took1 (draft.openFrame .fork (bareNode .fork)))
  | "fork again" =>
    some (ifAllowed draft (draft.mark? .fork (bareNode .forkAgainMarker))
      "`fork again` outside of a fork")
  | "end fork" | "endfork" | "end merge" =>
    some (ifAllowed draft (draft.close? .fork none) "`end fork` without a matching fork")
  | "endif" | "end if" =>
    some (ifAllowed draft (draft.close? .conditional none) "`endif` without a matching if")
  | "\x7d" => some (ifAllowed draft draft.closePartition? "unbalanced `\x7d`")
  | _ => none

/-- Reads an action, whose text goes on up to a semicolon at the end of a line. -/
def readAction {rest : List Line} (draft : Draft) (first : List Char) : Turn Draft rest :=
  let (lines, left) :=
    if hasEnd [';'] first then ([], .all rest)
    else through (fun line => hasEnd [';'] line.chars) rest
  let joined := join ['\n'] (first :: lines.map Line.chars)
  let label := trim ((before? [';'] joined).getD joined)
  .took (draft.push (bareNode .action (unescapeBreaks label))) left

/-- Reads a note, whose text stands behind a colon or on the lines below. -/
def readNote {rest : List Line} (draft : Draft) (words : Option (List Char)) : Turn Draft rest :=
  match words with
  | some words => .took1 (draft.attachNote (String.ofList (unescapeBreaks (trim words))))
  | none =>
    let (body, left) := upTo (fun line => endsNote line.text) rest
    .took (draft.attachNote (joinTexts body)) left

/-- A line of one of the patterns: a construct, a lane, a partition or a note. -/
def patternLine {rest : List Line} (draft : Draft) (s : List Char) : Turn Draft rest :=
  if let some (words, label) := ifPattern.read? s then
    .took1 (draft.openFrame .conditional
      { bareNode .decision (trim words) with yesBranch := branchLabel? label })
  else if let some (words, label) := elseifPattern.read? s then
    ifAllowed draft (draft.mark? .conditional
      { bareNode .elseifMarker (trim words) with branchLabel := branchLabel? label })
      "`elseif` outside of an if"
  else if let some label := elsePattern.read? s then
    ifAllowed draft (draft.mark? .conditional
      { bareNode .elseMarker with branchLabel := branchLabel? label })
      "`else` outside of an if"
  else if let some (words, label) := whilePattern.read? s then
    .took1 (draft.openFrame .loop
      { bareNode .decision (trim words) with looping := true, yesBranch := branchLabel? label })
  else if let some label := endWhilePattern.read? s then
    ifAllowed draft (draft.close? .loop (branchLabel? label))
      "`endwhile` without a matching while"
  else if let some name := lanePattern.read? s then
    .took1 (draft.switchLane (String.ofList (trim name)))
  else if let some name := partitionPattern.read? s then
    .took1 (draft.openPartition (String.ofList (unquote name)))
  else if let some words := notePattern.read? s then readNote draft words
  else .skip draft "unrecognized activity diagram line"

/-- Reads a line: a fixed word, an action, or a construct. -/
def turn (draft : Draft) (line : Line) (rest : List Line) : Turn Draft rest :=
  match fixedLine? draft line.text with
  | some turn => turn
  | none =>
    match after? [':'] line.chars with
    | some first => readAction draft first
    | none => patternLine draft line.chars

/-- Reads an activity without its edges. -/
def draftOfLines (lines : List Line) : ActivityDiagram × List Diagnostic :=
  let (draft, diagnostics) := readAll turn {} lines
  (draft.finish, diagnostics)

/-- Reads an activity. Its edges follow from its nodes once all of them are read. -/
def ofLines (lines : List Line) : Except FlowFault (ActivityDiagram × List Diagnostic) := do
  let (d, diagnostics) := draftOfLines lines
  let edges ← Flow.edges d.nodes
  return ({ d with edges }, diagnostics)

end DiagramMarkup.ActivityDiagram
