import DiagramMarkup.Layout.Diagram
import DiagramMarkup.Proofs.Drawing.Fits
import DiagramMarkup.Proofs.Layout.Frames
import DiagramMarkup.Proofs.References.Sides
import DiagramMarkup.Reading.Engine
import Mathlib.Algebra.Order.BigOperators.Group.List
import Mathlib.Data.List.Chain

/-! # The stacks of a mind map

On either side of the root the topics stand in one stack, in the order of the text, with the same gap
between any two that follow each other. The middle of a stack is as high as that of the root, and how
far a topic is from the root tells its level.
-/

namespace DiagramMarkup

open Scalar

/-- Where two names have boxes, the second one begins just at a distance below the first one. -/
def Adjoins (boxes : Table (Box Rat)) (distance : Rat) (a b : String) : Prop :=
  ∀ upper lower, boxes.get? a = some upper → boxes.get? b = some lower →
    upper.bottom + distance = lower.top

theorem Adjoins.shift {boxes : Table (Box Rat)} {distance : Rat} {a b : String}
    (adjoins : Adjoins boxes distance a b) (dx dy : Rat) :
    Adjoins (boxes.map (Box.shift dx dy)) distance a b := by
  refine Table.related_map fun upper lower there here => ?_
  rw [Box.bottom_shift, Box.top_shift, add_right_comm]
  exact congrArg (· + dy) (adjoins upper lower there here)

/-- The sign of the way from the middle to a side. -/
def Side.direction : Side → Rat
  | .center => 0
  | .right => 1
  | .left => -1

theorem CellFactors.height_measure_nonneg {factors : CellFactors Rat} (tall : 0 ≤ factors.height)
    (fontSize : Rat) (text : String) : 0 ≤ (factors.measure fontSize text).height := by
  have size : 0 ≤ larger fontSize 1 := by
    rw [larger_eq_max]
    exact le_max_of_le_right (by decide)
  have factor : 0 ≤ orUsual factors.height 1.2 := by
    unfold orUsual
    split
    · decide +kernel
    · exact tall
  exact mul_nonneg (mul_nonneg (Nat.cast_nonneg _) size) factor

theorem Topic.size_height_nonneg {measure : Measure Rat} (tall : ∀ text, 0 ≤ (measure text).height)
    (topic : Topic) : 0 ≤ (topic.size measure false).height :=
  add_nonneg (tall topic.label) (by decide)

namespace MindMap

/-! ## The root and its two sides -/

/-- The topics that have a side, in the order of the text. -/
def along (map : MindMap) (side : Side) : List Topic :=
  map.nodes.values.filter fun topic => topic.side = side

/-- A map begins with its root. The other topics are deeper, and none of them is in the middle. -/
structure IsTree (map : MindMap) (root : Topic) (others : List Topic) : Prop where
  values : map.nodes.values = root :: others
  names : map.nodes.values.map Topic.name = map.nodes.keys
  found : map.root? = some root
  center : root.side = .center
  beside : ∀ topic ∈ others, topic.side ≠ .center
  deeper : ∀ topic ∈ others, root.level < topic.level

theorem Draft.Balances.exists_isTree {draft : Draft} {headings : List Heading}
    (balances : Balances draft (firstTree headings)) (drawn : draft.map.nodes.values ≠ []) :
    ∃ root others, draft.map.IsTree root others := by
  have levels := Heading.map_level_of_gives balances.given
  obtain ⟨root, others, values⟩ := List.exists_cons_of_ne_nil drawn
  have first : draft.map.nodes.values[0]? = some root := by rw [values, List.getElem?_cons_zero]
  have known : root ∈ draft.map.nodes.values := List.mem_of_getElem? first
  have none_above : root.parent = none := (balances.root 0 root first).mpr rfl
  refine ⟨root, others, values, balances.names, (balances.root?_eq_some_iff known).mpr none_above,
    balances.center root known none_above, ?beside, ?deeper⟩
  case beside =>
    intro topic member middle
    obtain ⟨place, here⟩ := List.mem_iff_getElem?.mp member
    have there : draft.map.nodes.values[place + 1]? = some topic := by
      rw [values, List.getElem?_cons_succ, here]
    rw [balances.center_iff (List.mem_of_getElem? there), balances.root _ topic there] at middle
    exact Nat.succ_ne_zero place middle
  case deeper =>
    -- The levels are those of the headings, of which only deeper ones are taken behind the first.
    intro topic member
    rw [values] at levels
    cases headings with
    | nil => cases levels
    | cons heading rest =>
        obtain ⟨same, levels⟩ := List.cons.inj levels
        have level := List.mem_map_of_mem (f := Topic.level) member
        rw [levels] at level
        obtain ⟨below, inside, sameLevel⟩ := List.mem_map.mp level
        have deeper := List.all_eq_true.mp List.all_takeWhile below inside
        rw [same, ← sameLevel]
        exact of_decide_eq_true deeper

/-- Whatever is read is empty or a tree. -/
theorem exists_isTree (lines : List Line) (drawn : (ofLines lines).1.nodes.values ≠ []) :
    ∃ root others, (ofLines lines).1.IsTree root others := by
  obtain ⟨last, same, balances⟩ := Draft.exists_balances (mark_mem_headings lines)
  have run : (ofLines lines).1 = last.map :=
    (congrArg Draft.map (readAll_eq_foldl {} lines)).trans same
  rw [run] at drawn ⊢
  exact balances.exists_isTree drawn

namespace IsTree

variable {map : MindMap} {root : Topic} {others : List Topic}

theorem along_eq (isTree : map.IsTree root others) {side : Side} (outer : side ≠ .center) :
    map.along side = others.filter fun topic => topic.side = side := by
  rw [along, isTree.values, List.filter_cons_of_neg]
  rw [isTree.center, decide_eq_true_eq]
  exact outer.symm

theorem perm (isTree : map.IsTree root others) :
    (root :: (map.along .right ++ map.along .left)).Perm map.nodes.values := by
  have sides : ∀ topic ∈ others, decide (topic.side = .left) = !decide (topic.side = .right) := by
    intro topic member
    have outer := isTree.beside topic member
    cases side : topic.side with
    | center => exact absurd side outer
    | right => rfl
    | left => rfl
  rw [isTree.values, isTree.along_eq (by decide), isTree.along_eq (by decide),
    List.filter_congr sides]
  exact (List.filter_append_perm _ others).cons root

theorem nodup_names (isTree : map.IsTree root others) :
    ((root :: (map.along .right ++ map.along .left)).map Topic.name).Nodup := by
  have distinct := map.nodes.nodup_keys
  rw [← isTree.names] at distinct
  exact (isTree.perm.map Topic.name).nodup_iff.mpr distinct

theorem onSide_eq (isTree : map.IsTree root others) (left : Bool) :
    map.onSide root left = map.along (if left then .left else .right) := by
  have distinct := map.nodes.nodup_keys
  rw [← isTree.names, isTree.values, List.map_cons, List.nodup_cons] at distinct
  have outer : (if left then Side.left else .right) ≠ .center := by cases left <;> decide
  rw [isTree.along_eq outer, onSide, isTree.values, List.filter_cons_of_neg (by simp)]
  apply List.filter_congr
  intro topic member
  have apart : topic.name ≠ root.name := by
    intro same
    exact distinct.1 (same ▸ List.mem_map_of_mem member)
  have beside := isTree.beside topic member
  cases side : topic.side with
  | center => exact absurd side beside
  | right | left => cases left <;> simp [apart]

end IsTree

/-! ## One stack -/

section

variable (settings : Settings Rat) (measure : Measure Rat) (root : Topic) (direction : Rat)

/-- The box of a topic that begins at some height. -/
def topicBox (y : Rat) (topic : Topic) : Box Rat :=
  let size := topic.size measure false
  ⟨direction * ((topic.level - root.level : Nat) : Rat) * settings.levelDistance, y + size.height / 2,
    size.width, size.height⟩

/-- How much height some topics take, each with the gap below it. -/
def stackHeight (topics : List Topic) : Rat :=
  (topics.map fun topic => (topic.size measure false).height + settings.topicGap).sum

variable {settings measure root direction} {y : Rat} {topic : Topic} {topics : List Topic}
  {boxes : Table (Box Rat)}

theorem top_topicBox : (topicBox settings measure root direction y topic).top = y :=
  Box.top_of_hung rfl

theorem bottom_topicBox : (topicBox settings measure root direction y topic).bottom =
    y + (topic.size measure false).height :=
  Box.bottom_of_hung rfl

theorem stackHeight_cons : stackHeight settings measure (topic :: topics) =
    (topic.size measure false).height + settings.topicGap + stackHeight settings measure topics :=
  List.sum_cons

theorem stack_cons : (stack settings measure root direction y (topic :: topics)).1 =
    (topic.name, topicBox settings measure root direction y topic) ::
      (stack settings measure root direction
        (y + ((topic.size measure false).height + settings.topicGap)) topics).1 :=
  rfl

theorem stop_stack (y : Rat) (topics : List Topic) :
    (stack settings measure root direction y topics).2 = y + stackHeight settings measure topics := by
  induction topics generalizing y with
  | nil => exact (add_zero y).symm
  | cons topic topics ih =>
      rw [stackHeight_cons, ← add_assoc, ← ih]
      rfl

/-- A stack that is moved up begins higher. -/
theorem map_stack (settings : Settings Rat) (measure : Measure Rat) (root : Topic)
    (direction c y : Rat) (topics : List Topic) :
    (stack settings measure root direction y topics).1.map
        (fun entry => (entry.1, { entry.2 with y := entry.2.y - c })) =
      (stack settings measure root direction (y - c) topics).1 := by
  induction topics generalizing y with
  | nil => rfl
  | cons topic topics ih =>
      rw [stack_cons, stack_cons, List.map_cons, ih, ← sub_add_eq_add_sub, topicBox, topicBox,
        ← sub_add_eq_add_sub]

/-- The boxes of a stack are found under the names of its topics. -/
def IsPlaced (settings : Settings Rat) (measure : Measure Rat) (root : Topic) (direction y : Rat)
    (topics : List Topic) (boxes : Table (Box Rat)) : Prop :=
  ∀ entry ∈ (stack settings measure root direction y topics).1, boxes.get? entry.1 = some entry.2

namespace IsPlaced

theorem head (placed : IsPlaced settings measure root direction y (topic :: topics) boxes) :
    boxes.get? topic.name = some (topicBox settings measure root direction y topic) :=
  placed _ List.mem_cons_self

theorem tail (placed : IsPlaced settings measure root direction y (topic :: topics) boxes) :
    IsPlaced settings measure root direction
      (y + ((topic.size measure false).height + settings.topicGap)) topics boxes :=
  fun entry member => placed entry (List.mem_cons_of_mem _ member)

theorem exists_box (placed : IsPlaced settings measure root direction y topics boxes)
    (member : topic ∈ topics) : ∃ b, boxes.get? topic.name = some b ∧
      b.x = direction * ((topic.level - root.level : Nat) : Rat) * settings.levelDistance := by
  induction topics generalizing y with
  | nil => exact absurd member List.not_mem_nil
  | cons first topics ih =>
      rcases List.mem_cons.mp member with rfl | later
      · exact ⟨_, placed.head, rfl⟩
      · exact ih placed.tail later

theorem top_head (placed : IsPlaced settings measure root direction y topics boxes)
    (first : topic ∈ topics.head?) {b : Box Rat} (found : boxes.get? topic.name = some b) :
    b.top = y := by
  cases topics with
  | nil => cases first
  | cons first topics =>
      cases Option.mem_some_iff.mp first
      cases found.symm.trans placed.head
      exact top_topicBox

theorem isChain (placed : IsPlaced settings measure root direction y topics boxes) :
    topics.IsChain fun upper lower => Adjoins boxes settings.topicGap upper.name lower.name := by
  induction topics generalizing y with
  | nil => exact List.IsChain.nil
  | cons topic topics ih =>
      refine List.isChain_cons.mpr ⟨fun next first upper lower there here => ?_, ih placed.tail⟩
      cases there.symm.trans placed.head
      rw [placed.tail.top_head first here, bottom_topicBox, add_assoc]

/-- A stack ends as far down as its height tells, but for the gap below the last topic. -/
theorem bottom_getLast (placed : IsPlaced settings measure root direction y topics boxes)
    (last : topic ∈ topics.getLast?) {b : Box Rat} (found : boxes.get? topic.name = some b) :
    b.bottom + settings.topicGap = y + stackHeight settings measure topics := by
  induction topics generalizing y with
  | nil => cases last
  | cons first topics ih =>
      cases topics with
      | nil =>
          cases Option.mem_some_iff.mp last
          cases found.symm.trans placed.head
          rw [bottom_topicBox, stackHeight_cons, add_assoc]
          exact congrArg (y + ·) (add_zero _).symm
      | cons second topics =>
          rw [stackHeight_cons, ← add_assoc]
          exact ih placed.tail (List.getLast?_cons_cons ▸ last)

section

variable (gap : 0 ≤ settings.topicGap) (tall : ∀ text, 0 ≤ (measure text).height)

include gap tall

theorem le_top (placed : IsPlaced settings measure root direction y topics boxes)
    (member : topic ∈ topics) {b : Box Rat} (found : boxes.get? topic.name = some b) :
    y ≤ b.top := by
  induction topics generalizing y with
  | nil => exact absurd member List.not_mem_nil
  | cons first topics ih =>
      rcases List.mem_cons.mp member with rfl | later
      · exact (placed.top_head rfl found).ge
      · have below := ih placed.tail later
        have high := first.size_height_nonneg tall
        linarith

theorem pairwise (placed : IsPlaced settings measure root direction y topics boxes) :
    topics.Pairwise fun upper lower => Above boxes settings.topicGap upper.name lower.name := by
  induction topics generalizing y with
  | nil => exact List.Pairwise.nil
  | cons topic topics ih =>
      refine List.pairwise_cons.mpr ⟨fun other later upper lower there here => ?_, ih placed.tail⟩
      cases there.symm.trans placed.head
      rw [bottom_topicBox, add_assoc]
      exact placed.tail.le_top gap tall later here

end

end IsPlaced

/-- A stack with a topic takes one gap at least. -/
theorem gap_le_stackHeight (gap : 0 ≤ settings.topicGap) (tall : ∀ text, 0 ≤ (measure text).height)
    (first : topic ∈ topics.head?) : settings.topicGap ≤ stackHeight settings measure topics := by
  obtain ⟨behind, rfl⟩ := List.head?_eq_some_iff.mp first
  have others : 0 ≤ stackHeight settings measure behind := by
    apply List.sum_nonneg
    rw [List.forall_mem_map]
    exact fun topic _ => add_nonneg (topic.size_height_nonneg tall) gap
  have high := topic.size_height_nonneg tall
  rw [stackHeight_cons]
  linarith

end

/-! ## The whole layout -/

section

variable {settings : Settings Rat} {measure : Measure Rat} {map : MindMap} {root : Topic}
  {others : List Topic}

/-- The height at which a stack begins, where the middle of the root is at zero. -/
def startHeight (settings : Settings Rat) (measure : Measure Rat) (topics : List Topic) : Rat :=
  -(larger (stackHeight settings measure topics - settings.topicGap) 0 / 2)

theorem sideBoxes_eq (settings : Settings Rat) (measure : Measure Rat) (map : MindMap) (root : Topic)
    (left : Bool) :
    map.sideBoxes settings measure root left =
      (stack settings measure root (if left then -1 else 1)
        (startHeight settings measure (map.onSide root left)) (map.onSide root left)).1 := by
  have moved := map_stack settings measure root (if left then -1 else 1)
    (larger (stackHeight settings measure (map.onSide root left) - settings.topicGap) 0 / 2) 0
    (map.onSide root left)
  rw [zero_sub] at moved
  rw [startHeight, ← moved, sideBoxes]
  dsimp only
  rw [stop_stack, zero_add]

/-- The box of the root. -/
def rootBox (measure : Measure Rat) (root : Topic) : Box Rat :=
  ⟨0, 0, (root.size measure true).width, (root.size measure true).height⟩

namespace IsTree

theorem keys_entries (isTree : map.IsTree root others) (settings : Settings Rat)
    (measure : Measure Rat) :
    ((root.name, rootBox measure root) :: (map.sideBoxes settings measure root false ++
      map.sideBoxes settings measure root true)).map Prod.fst =
        (root :: (map.along .right ++ map.along .left)).map Topic.name := by
  rw [List.map_cons, List.map_append, map_fst_sideBoxes, map_fst_sideBoxes, isTree.onSide_eq,
    isTree.onSide_eq, List.map_cons, List.map_append]
  rfl

theorem entries_layout (isTree : map.IsTree root others) (settings : Settings Rat)
    (measure : Measure Rat) : (map.layout settings measure).boxes.entries =
      (root.name, rootBox measure root) :: (map.sideBoxes settings measure root false ++
        map.sideBoxes settings measure root true) := by
  have distinct := isTree.nodup_names
  rw [← isTree.keys_entries settings measure] at distinct
  rw [layout, isTree.found]
  exact Table.entries_ofList distinct

theorem isPlaced_layout (isTree : map.IsTree root others) (settings : Settings Rat)
    (measure : Measure Rat) {side : Side} (outer : side ≠ .center) :
    IsPlaced settings measure root side.direction (startHeight settings measure (map.along side))
      (map.along side) (map.layout settings measure).boxes := by
  intro entry member
  apply Table.get?_of_mem
  rw [isTree.entries_layout]
  apply List.mem_cons_of_mem
  have right := sideBoxes_eq settings measure map root false
  have left := sideBoxes_eq settings measure map root true
  rw [isTree.onSide_eq] at right left
  cases side with
  | center => exact absurd rfl outer
  | right => exact List.mem_append_left _ (right ▸ member)
  | left => exact List.mem_append_right _ (left ▸ member)

end IsTree

/-- A mind map around the box of its root. -/
structure Stacked (settings : Settings Rat) (map : MindMap) (root : Topic) (l : Layout Rat)
    (middle : Box Rat) : Prop where
  center : l.boxes.get? root.name = some middle
  /-- Every topic but the root is on one of the sides, once. -/
  sides : (root :: (map.along .right ++ map.along .left)).Perm map.nodes.values
  keys : l.boxes.keys = (root :: (map.along .right ++ map.along .left)).map Topic.name
  deeper : ∀ topic ∈ map.nodes.values, topic = root ∨ root.level < topic.level
  /-- The distance from the root tells the level of a topic, and its sign the side. -/
  levels : ∀ topic ∈ map.nodes.values, ∃ b, l.boxes.get? topic.name = some b ∧
    b.x - middle.x = topic.side.direction * (topic.level - root.level) * settings.levelDistance
  /-- Topics that follow each other on a side leave just the gap between them. -/
  gaps : ∀ side, side ≠ .center → (map.along side).IsChain fun upper lower =>
    Adjoins l.boxes settings.topicGap upper.name lower.name
  downwards : ∀ side, side ≠ .center → (map.along side).Pairwise fun upper lower =>
    Above l.boxes settings.topicGap upper.name lower.name
  /-- The middle between the two ends of a stack is that of the root. -/
  centred : ∀ side, side ≠ .center → ∀ first ∈ (map.along side).head?,
    ∀ last ∈ (map.along side).getLast?, ∀ upper lower, l.boxes.get? first.name = some upper →
      l.boxes.get? last.name = some lower → (upper.top + lower.bottom) / 2 = middle.y

theorem stacked_layout (isTree : map.IsTree root others) (gap : 0 ≤ settings.topicGap)
    (tall : ∀ text, 0 ≤ (measure text).height) :
    Stacked settings map root (map.layout settings measure) (rootBox measure root) := by
  have center : (map.layout settings measure).boxes.get? root.name =
      some (rootBox measure root) := by
    apply Table.get?_of_mem
    rw [isTree.entries_layout]
    exact List.mem_cons_self
  have deeper : ∀ topic ∈ map.nodes.values, topic = root ∨ root.level < topic.level := by
    rw [isTree.values]
    exact List.forall_mem_cons.mpr ⟨.inl rfl, fun topic member => .inr (isTree.deeper topic member)⟩
  constructor
  case center => exact center
  case sides => exact isTree.perm
  case keys => rw [Table.keys, isTree.entries_layout, isTree.keys_entries]
  case deeper => exact deeper
  case levels =>
    rw [isTree.values, List.forall_mem_cons]
    constructor
    · refine ⟨_, center, ?_⟩
      rw [sub_self, isTree.center, Side.direction, zero_mul, zero_mul]
    · intro topic member
      have outer := isTree.beside topic member
      have inside : topic ∈ map.along topic.side := by
        rw [isTree.along_eq outer]
        exact List.mem_filter.mpr ⟨member, decide_eq_true rfl⟩
      obtain ⟨b, found, x⟩ := (isTree.isPlaced_layout settings measure outer).exists_box inside
      refine ⟨b, found, ?_⟩
      rw [x, Nat.cast_sub (isTree.deeper topic member).le]
      exact sub_zero _
  case gaps => exact fun side outer => (isTree.isPlaced_layout settings measure outer).isChain
  case downwards =>
    exact fun side outer => (isTree.isPlaced_layout settings measure outer).pairwise gap tall
  case centred =>
    intro side outer first begins last ends upper lower there here
    have placed := isTree.isPlaced_layout settings measure outer
    have top := placed.top_head begins there
    have bottom := placed.bottom_getLast ends here
    -- Only an empty stack would be lower than the gap, so that the height is not cut off at zero.
    have high := gap_le_stackHeight gap tall begins
    rw [startHeight, larger_eq_max, max_eq_left (sub_nonneg.mpr high)] at top bottom
    change (upper.top + lower.bottom) / 2 = 0
    linarith

namespace Stacked

variable {l : Layout Rat} {middle : Box Rat}

theorem shift (stacked : Stacked settings map root l middle) (dx dy : Rat) (bounds : Bounds Rat) :
    Stacked settings map root { l.shift dx dy with bounds } (middle.shift dx dy) := by
  have moved {name : String} {b : Box Rat} (found : l.boxes.get? name = some b) :
      (l.boxes.map (Box.shift dx dy)).get? name = some (b.shift dx dy) := by
    rw [Table.get?_map, found, Option.map_some]
  constructor
  case center => exact moved stacked.center
  case sides => exact stacked.sides
  case keys => exact (Table.keys_map _).trans stacked.keys
  case deeper => exact stacked.deeper
  case levels =>
    intro topic member
    obtain ⟨b, found, far⟩ := stacked.levels topic member
    exact ⟨_, moved found, (add_sub_add_right_eq_sub _ _ dx).trans far⟩
  case gaps => exact fun side outer => (stacked.gaps side outer).imp fun _ _ near => near.shift dx dy
  case downwards =>
    exact fun side outer => (stacked.downwards side outer).imp fun above => above.shift dx dy
  case centred =>
    intro side outer first begins last ends
    refine Table.related_map fun upper lower there here => ?_
    have centred := stacked.centred side outer first begins last ends upper lower there here
    rw [Box.top_shift, Box.bottom_shift]
    change _ = middle.y + dy
    linarith

theorem apart (stacked : Stacked settings map root l middle) (gap : 0 ≤ settings.topicGap) {side : Side}
    (outer : side ≠ .center) : (map.along side).Pairwise fun first second =>
      ∀ a b, l.boxes.get? first.name = some a → l.boxes.get? second.name = some b →
        a.bounds.Apart b.bounds := by
  apply (stacked.downwards side outer).imp
  intro first second above a b there here
  exact Bounds.apart_of_bottom_le_top ((le_add_of_nonneg_right gap).trans (above a b there here))

end Stacked

end

/-- A mind map that is read is laid out around its root, if there is one: every other topic has a place
in the stack of its side, where they follow each other downwards with one gap between them, without a
common inside, and as far above as below the middle of the root. To the right and to the left a topic is
as far from the root as its level tells. All this is kept when the layout is moved onto its margin. -/
theorem stacked_standard (lines : List Line) {settings : Settings Rat} {measure : Measure Rat}
    (gap : 0 ≤ settings.topicGap) (tall : ∀ text, 0 ≤ (measure text).height) :
    ∃ map diagnostics, Reader.standard .mindMap lines = .ok (.mindMap map, diagnostics) ∧
      (map.nodes.values ≠ [] → ∃ root, map.root? = some root ∧
        ∀ l ∈ [map.layout settings measure, (Content.mindMap map).layout settings measure],
          ∃ middle, Stacked settings map root l middle ∧
            ∀ side, side ≠ .center → (map.along side).Pairwise fun first second =>
              ∀ a b, l.boxes.get? first.name = some a → l.boxes.get? second.name = some b →
                a.bounds.Apart b.bounds) := by
  refine ⟨_, _, rfl, fun drawn => ?_⟩
  obtain ⟨root, others, isTree⟩ := exists_isTree lines drawn
  have stacked := stacked_layout isTree gap tall
  obtain ⟨dx, dy, bounds, moved⟩ := ((ofLines lines).1.layout settings measure).exists_finish
    settings.margin
  have finished := stacked.shift dx dy bounds
  rw [← moved] at finished
  refine ⟨root, isTree.found, List.forall_mem_cons.mpr ⟨?_, List.forall_mem_singleton.mpr ?_⟩⟩
  · exact ⟨_, stacked, fun side outer => stacked.apart gap outer⟩
  · exact ⟨_, finished, fun side outer => finished.apart gap outer⟩

/-- Two stacks of different heights; the one on the left has a topic below a topic. -/
theorem stacked_standard_garden :
    let settings : Settings Rat := { Settings.standard with topicGap := 0 }
    let measure : Measure Rat := CellFactors.standard.measure 13
    let lines : List Line :=
      [⟨1, "* Garden"⟩, ⟨2, "** Trees"⟩, ⟨3, "** Beds"⟩, ⟨4, "***:Beans and"⟩, ⟨5, "peas;"⟩,
        ⟨6, "++ Pond"⟩, ⟨7, "-- Shed"⟩]
    0 ≤ settings.topicGap ∧ (∀ text, 0 ≤ (measure text).height) ∧
      ∃ map diagnostics, Reader.standard .mindMap lines = .ok (.mindMap map, diagnostics) ∧
        (map.along .right).map Topic.label = ["Trees", "Pond"] ∧
        (map.along .left).map Topic.label = ["Beds", "Beans and\npeas", "Shed"] ∧
        ∃ root, map.root? = some root ∧
          ∀ l ∈ [map.layout settings measure, (Content.mindMap map).layout settings measure],
            ∃ middle, Stacked settings map root l middle ∧
              ∀ side, side ≠ .center → (map.along side).Pairwise fun first second =>
                ∀ a b, l.boxes.get? first.name = some a → l.boxes.get? second.name = some b →
                  a.bounds.Apart b.bounds := by
  intro settings measure lines
  have gap : 0 ≤ settings.topicGap := by decide
  have tall : ∀ text, 0 ≤ (measure text).height := CellFactors.height_measure_nonneg (by decide) 13
  obtain ⟨map, diagnostics, read, stacked⟩ := stacked_standard lines gap tall
  refine ⟨gap, tall, map, diagnostics, read, ?_, ?_, stacked ?_⟩
  all_goals
    cases read
    decide +kernel

end MindMap

end DiagramMarkup
