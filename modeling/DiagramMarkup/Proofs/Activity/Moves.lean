import DiagramMarkup.Reading.Activity

/-! # What a line does to an activity

Whatever a line says, it changes the draft of an activity in one of a few ways. A node enters the
draft in the role that its kind gives to it: it stands alone, or it opens a construct, separates two
branches of one, or closes one.
-/

namespace DiagramMarkup

open ActivityDiagram

/-- What a node does to the constructs around it. -/
inductive Role where
  | alone
  | opens (kind : FrameKind)
  | separates (kind : FrameKind)
  | closes (kind : FrameKind)
deriving Repr, DecidableEq

namespace Role

/-- Whether a node of a role stands between two branches. -/
def isSeparator : Role → Bool
  | .separates _ => true
  | _ => false

/-- Whether a node of a role ends a construct. -/
def isEnd : Role → Bool
  | .closes _ => true
  | _ => false

/-- Whether a node of a role belongs to a construct that another node opened. -/
def isInner (role : Role) : Bool :=
  role.isSeparator || role.isEnd

end Role

namespace ActivityNode

/-- The kind of construct that a decision or a merge belongs to. -/
def branching (node : ActivityNode) : FrameKind :=
  if node.looping then .loop else .conditional

/-- The role of a node: decisions and forks open constructs, merges and joins close them, and markers
stand between the branches of conditionals and forks. -/
def role (node : ActivityNode) : Role :=
  match node.kind with
  | .start | .stop | .action => .alone
  | .decision => .opens node.branching
  | .fork => .opens .fork
  | .elseMarker | .elseifMarker => .separates .conditional
  | .forkAgainMarker => .separates .fork
  | .merge => .closes node.branching
  | .join => .closes .fork

theorem isMarker_eq (node : ActivityNode) : node.isMarker = node.role.isSeparator := by
  unfold isMarker role
  cases node.kind <;> rfl

theorem isClosing_eq (node : ActivityNode) : node.isClosing = node.role.isEnd := by
  unfold isClosing role
  cases node.kind <;> rfl

end ActivityNode

namespace ActivityDiagram

namespace Draft

/-- A node as it is added to a draft. -/
def placed (draft : Draft) (node : ActivityNode) : ActivityNode :=
  { node with name := draft.nextName, lane := draft.lane, partition := draft.partition? }

variable {draft next : Draft} {kind : FrameKind}

theorem exists_of_mark? {node : ActivityNode} (marked : draft.mark? kind node = some next) :
    ∃ frame below, draft.frames = frame :: below ∧ frame.kind = kind ∧
      next = draft.push { node with opener := some frame.opener } := by
  unfold mark? at marked
  split at marked
  · cases marked
  · split at marked
    · cases marked
      exact ⟨_, _, ‹_›, ‹_›, rfl⟩
    · cases marked

theorem exists_of_close? {label : Option String} (closed : draft.close? kind label = some next) :
    ∃ frame below, draft.frames = frame :: below ∧ frame.kind = kind ∧
      next = { draft with frames := below }.pushClosing frame label := by
  unfold close? at closed
  split at closed
  · cases closed
  · split at closed
    · cases closed
      exact ⟨_, _, ‹_›, ‹_›, rfl⟩
    · cases closed

theorem exists_of_closePartition? (closed : draft.closePartition? = some next) :
    ∃ place places, draft.openPartitions = place :: places ∧
      next = { draft.endPartition place with openPartitions := places } := by
  unfold closePartition? at closed
  split at closed
  · cases closed
  · cases closed
    exact ⟨_, _, ‹_›, rfl⟩

end Draft

/-- One change that a line makes to a draft. -/
inductive Move (draft : Draft) : Draft → Prop where
  /-- A node that stands alone is added. -/
  | alone (node : ActivityNode) : node.role = .alone → node.opener = none →
      Move draft (draft.push node)
  /-- A construct is opened. -/
  | opens (kind : FrameKind) (node : ActivityNode) : node.role = .opens kind →
      node.opener = none → Move draft (draft.openFrame kind node)
  /-- Another branch of the innermost construct is started; its marker has no note. -/
  | separates (kind : FrameKind) (node : ActivityNode) (next : Draft) :
      node.role = .separates kind → node.note = none → draft.mark? kind node = some next →
      Move draft next
  /-- The innermost construct is closed. -/
  | closes (kind : FrameKind) (label : Option String) (next : Draft) :
      draft.close? kind label = some next → Move draft next
  | switchesLane (name : String) : Move draft (draft.switchLane name)
  | opensPartition (name : String) : Move draft (draft.openPartition name)
  | closesPartition (next : Draft) : draft.closePartition? = some next → Move draft next
  | attachesNote (text : String) : Move draft (draft.attachNote text)
  /-- The line is skipped. -/
  | stays : Move draft draft

theorem state_ifAllowed {P : Draft → Prop} {draft : Draft} {rest : List Line} {next : Option Draft}
    {reason : String} (stays : P draft) (allowed : ∀ d, next = some d → P d) :
    P (ifAllowed draft next reason : Turn Draft rest).state := by
  cases next with
  | none => exact stays
  | some d => exact allowed d rfl

namespace Move

variable {draft : Draft} {rest : List Line}

theorem of_mark {kind : FrameKind} {node : ActivityNode} {reason : String}
    (role : node.role = .separates kind) (unnoted : node.note = none) :
    Move draft (ifAllowed draft (draft.mark? kind node) reason : Turn Draft rest).state :=
  state_ifAllowed .stays fun d marked => .separates kind node d role unnoted marked

theorem of_close {kind : FrameKind} {label : Option String} {reason : String} :
    Move draft (ifAllowed draft (draft.close? kind label) reason : Turn Draft rest).state :=
  state_ifAllowed .stays fun d closed => .closes kind label d closed

theorem of_fixedLine {text : String} {turn : Turn Draft rest}
    (h : fixedLine? draft text = some turn) : Move draft turn.state := by
  unfold fixedLine? at h
  split at h <;> cases h
  case h_1 | h_2 | h_3 | h_4 | h_5 => exact .alone _ rfl rfl
  case h_6 => exact .opens .fork _ rfl rfl
  case h_7 => exact of_mark rfl rfl
  case h_8 | h_9 | h_10 | h_11 | h_12 => exact of_close
  case h_13 => exact state_ifAllowed .stays fun d closed => .closesPartition d closed

theorem of_readAction (first : List Char) :
    Move draft (readAction draft first : Turn Draft rest).state :=
  .alone _ rfl rfl

theorem of_readNote (words : Option (List Char)) :
    Move draft (readNote draft words : Turn Draft rest).state := by
  cases words with
  | none => exact .attachesNote _
  | some words => exact .attachesNote _

theorem of_patternLine (s : List Char) :
    Move draft (patternLine draft s : Turn Draft rest).state := by
  unfold patternLine
  repeat' split
  · exact .opens .conditional _ rfl rfl
  · exact of_mark rfl rfl
  · exact of_mark rfl rfl
  · exact .opens .loop _ rfl rfl
  · exact of_close
  · exact .switchesLane _
  · exact .opensPartition _
  · exact of_readNote _
  · exact .stays

/-- A turn changes the draft by one move. -/
theorem of_turn (draft : Draft) (line : Line) (rest : List Line) :
    Move draft (turn draft line rest).state := by
  unfold turn
  split
  · exact of_fixedLine ‹_›
  · split
    · exact of_readAction _
    · exact of_patternLine _

end Move

end ActivityDiagram

end DiagramMarkup
