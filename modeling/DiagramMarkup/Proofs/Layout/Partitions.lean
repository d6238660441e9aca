import DiagramMarkup.Proofs.Activity.Enclosing
import DiagramMarkup.Proofs.Drawing.Keys
import DiagramMarkup.Proofs.Layout.Chain

/-! # The frames of partitions

A partition has a frame where a node that is drawn is in it. The nodes before and behind the partition
keep the distance that the frame needs, so that it holds the nodes of its partition and no other one.

The frame of a partition lies in those of the partitions around it. There is room for all of their
titles above its first node, but a frame is drawn around its nodes alone: where two partitions begin
with the same node, their frames begin at the same height, and where they have the same nodes, their
frames are the same.
-/

namespace DiagramMarkup

open Scalar

/-- The node of a number is in a partition. -/
def Partition.Spans (p : Partition) (i : Nat) : Prop :=
  p.start ≤ i ∧ i < p.stop

instance (p : Partition) (i : Nat) : Decidable (p.Spans i) :=
  inferInstanceAs (Decidable (_ ∧ _))

namespace ActivityDiagram

/-- Whether a node that is drawn is in a partition. -/
def isShown (d : ActivityDiagram) (p : Partition) : Bool :=
  d.nodes.zipIdx.any fun entry => !entry.1.isMarker && decide (p.Spans entry.2)

/-- A frame bears the name of a partition, and holds the boxes of its nodes; no other node has a point
inside of it. -/
structure IsFrameOf (d : ActivityDiagram) (boxes : Table (Box Rat)) (p : Partition)
    (frame : DiagramMarkup.Frame Rat) : Prop where
  named : frame.name = p.name
  nodes : ∀ (i : Nat) (node : ActivityNode), d.nodes[i]? = some node → node.isMarker = false →
    ∃ box, boxes.get? node.name = some box ∧
      if p.Spans i then box.bounds.Within frame.bounds else box.bounds.Outside frame.bounds

variable {d : ActivityDiagram} {boxes : Table (Box Rat)} {gap : Rat} {p : Partition}
  {frame : DiagramMarkup.Frame Rat} {node : ActivityNode} {name : String} {i : Nat}

theorem isShown_iff : d.isShown p = true ↔
    ∃ i node, d.nodes[i]? = some node ∧ node.isMarker = false ∧ p.Spans i := by
  simp only [isShown, List.any_eq_true, Prod.exists, List.mem_zipIdx_iff_getElem?,
    Bool.and_eq_true, Bool.not_eq_true', decide_eq_true_eq]
  exact exists_comm

/-- The names of the nodes in a partition, markers included. -/
def memberNames (d : ActivityDiagram) (p : Partition) : List String :=
  (d.members p).map ActivityNode.name

theorem mem_memberNames (bounded : p.stop ≤ d.nodes.length) :
    name ∈ d.memberNames p ↔ ∃ i node, d.nodes[i]? = some node ∧ p.Spans i ∧ node.name = name := by
  unfold memberNames members
  rw [if_pos bounded, List.mem_map]
  constructor
  · rintro ⟨node, member, rfl⟩
    obtain ⟨k, here⟩ := List.mem_iff_getElem?.mp member
    rw [List.getElem?_drop] at here
    have inside : p.start + k < p.stop := by
      have known := (List.getElem?_eq_some_iff.mp here).1
      rw [List.length_take] at known
      omega
    rw [List.getElem?_take_of_lt inside] at here
    exact ⟨p.start + k, node, here, ⟨Nat.le_add_right _ _, inside⟩, rfl⟩
  · rintro ⟨i, node, here, ⟨start, stop⟩, rfl⟩
    refine ⟨node, List.mem_iff_getElem?.mpr ⟨i - p.start, ?_⟩, rfl⟩
    rw [List.getElem?_drop, Nat.add_sub_cancel' start, List.getElem?_take_of_lt stop, here]

namespace Chained

variable (chained : Chained d boxes gap)

include chained

theorem exists_get? (here : d.nodes[i]? = some node) (drawn : node.isMarker = false) :
    ∃ box, boxes.get? node.name = some box := by
  have visible : node ∈ d.visibleNodes :=
    List.mem_filter.mpr ⟨List.mem_of_getElem? here, (Bool.not_eq_true' _).mpr drawn⟩
  obtain ⟨box, found, _⟩ := chained.drawn node visible
  exact ⟨box, found⟩

theorem exists_frame? (bounded : p.stop ≤ d.nodes.length) (shown : d.isShown p = true) :
    ∃ frame, d.frame? boxes p = some frame := by
  obtain ⟨i, node, here, drawn, spans⟩ := isShown_iff.mp shown
  obtain ⟨box, found⟩ := chained.exists_get? here drawn
  rw [frame?_eq]
  exact Frame.exists_enclosing? _ _ _ ((mem_memberNames bounded).mpr ⟨i, node, here, spans, rfl⟩) found

theorem frame?_eq_none (bounded : p.stop ≤ d.nodes.length) (hidden : d.isShown p = false) :
    d.frame? boxes p = none := by
  rw [frame?_eq]
  apply Frame.enclosing?_eq_none
  intro name member
  obtain ⟨i, node, here, spans, rfl⟩ := (mem_memberNames bounded).mp member
  rw [Option.eq_none_iff_forall_ne_some]
  intro box found
  have drawn := chained.visible node (List.mem_of_getElem? here) box found
  have shown := isShown_iff.mpr ⟨i, node, here, drawn, spans⟩
  rw [hidden] at shown
  cases shown

theorem isFrameOf (wide : 0 ≤ gap) (member : p ∈ d.partitions) (bounded : p.stop ≤ d.nodes.length)
    (found : d.frame? boxes p = some frame) : d.IsFrameOf boxes p frame := by
  rw [frame?_eq] at found
  refine ⟨Frame.name_enclosing? found, fun i node here drawn => ?_⟩
  obtain ⟨box, placed⟩ := chained.exists_get? here drawn
  refine ⟨box, placed, ?_⟩
  split
  · next spans =>
    have own := (mem_memberNames bounded).mpr ⟨i, node, here, spans, rfl⟩
    exact Frame.within_enclosing? found (by decide) (by decide) own placed
  · next spans =>
    rcases Nat.lt_or_ge i p.start with before | behind
    · refine Frame.outside_of_above found placed (fun name inside => ?_)
        (le_add_of_nonneg_left wide)
      obtain ⟨j, other, there, ⟨start, _⟩, rfl⟩ := (mem_memberNames bounded).mp inside
      exact chained.before p member i j node other here there ⟨before, start⟩
    · refine Frame.outside_of_below found placed (fun name inside => ?_)
        (le_add_of_nonneg_left wide)
      obtain ⟨j, other, there, ⟨_, stop⟩, rfl⟩ := (mem_memberNames bounded).mp inside
      have past : p.stop ≤ i := by
        by_contra short
        exact spans ⟨behind, Nat.lt_of_not_le short⟩
      exact chained.behind p member j i other node there here ⟨stop, past⟩

end Chained

theorem forall₂_filterMap {α β : Type} {R : α → β → Prop} {test : α → Bool} {f : α → Option β}
    {items : List α} (found : ∀ a ∈ items, test a = true → ∃ b, f a = some b ∧ R a b)
    (lost : ∀ a ∈ items, test a = false → f a = none) :
    List.Forall₂ R (items.filter test) (items.filterMap f) := by
  induction items with
  | nil => exact .nil
  | cons a items ih =>
      rw [List.forall_mem_cons] at found lost
      have later := ih found.2 lost.2
      cases fits : test a with
      | false =>
          rw [List.filter_cons_of_neg (Bool.eq_false_iff.mp fits),
            List.filterMap_cons_none (lost.1 fits)]
          exact later
      | true =>
          obtain ⟨b, some, related⟩ := found.1 fits
          rw [List.filter_cons_of_pos fits, List.filterMap_cons_some some]
          exact .cons related later

/-- The boxes of an activity that is read are those of a chain, and its frames are those around them. -/
theorem exists_chained (lines : List Line) {settings : Settings Rat} (measure : Measure Rat)
    (down : 0 ≤ settings.activityGap) :
    ∃ edges, Flow.edges (draftOfLines lines).1.nodes = .ok edges ∧
      let d : ActivityDiagram := { (draftOfLines lines).1 with edges }
      let l := (Content.activity d).layout settings measure
      Chained d l.boxes settings.activityGap ∧
        l.groups = d.partitions.filterMap (d.frame? l.boxes) := by
  obtain ⟨edges, found, _⟩ := Flow.exists_edges lines
  obtain ⟨_, _, _, _, groups⟩ :=
    exists_moved settings measure { (draftOfLines lines).1 with edges }
  exact ⟨edges, found, chained_draftOfLines lines edges measure down, groups⟩

/-- Whatever the lines of an activity, its partitions in which a node is drawn have one frame each, in
their order, and there are no other frames. A frame holds the nodes of its partition, and no point of
any other node inside of it. -/
theorem framed_partitions (lines : List Line) {settings : Settings Rat} (measure : Measure Rat)
    (down : 0 ≤ settings.activityGap) :
    ∃ d diagnostics, Reader.standard .activity lines = .ok (.activity d, diagnostics) ∧
      List.Forall₂ (d.IsFrameOf ((Content.activity d).layout settings measure).boxes)
        (d.partitions.filter d.isShown) ((Content.activity d).layout settings measure).groups := by
  obtain ⟨edges, found, chained, groups⟩ := exists_chained lines measure down
  have bounded := bounded_draftOfLines lines
  refine ⟨_, _, standard_of_edges found, ?_⟩
  rw [groups]
  apply forall₂_filterMap
  · intro p member shown
    obtain ⟨frame, framed⟩ := chained.exists_frame? (bounded p member) shown
    exact ⟨frame, framed, chained.isFrameOf down member (bounded p member) framed⟩
  · exact fun p member hidden => chained.frame?_eq_none (bounded p member) hidden

/-- A partition that starts inside of a decision and begins with a marker, one without any node, and one
that is open at the end. -/
theorem framed_partitions_nested :
    let settings : Settings Rat := { Settings.standard with activityGap := 0 }
    let lines : List Line :=
      [⟨1, "partition Outer \x7b"⟩, ⟨2, "if (ready) then (yes)"⟩, ⟨3, ":a;"⟩,
        ⟨4, "partition Inner \x7b"⟩, ⟨5, "else (no)"⟩, ⟨6, ":b;"⟩, ⟨7, "\x7d"⟩, ⟨8, "partition Empty \x7b"⟩, ⟨9, "\x7d"⟩]
    0 ≤ settings.activityGap ∧
      ∃ d diagnostics, Reader.standard .activity lines = .ok (.activity d, diagnostics) ∧
        d.partitions = [⟨"Outer", 0, 5, none⟩, ⟨"Inner", 2, 4, some "Outer"⟩,
          ⟨"Empty", 4, 4, some "Outer"⟩] ∧
        (d.partitions.filter d.isShown).map Partition.name = ["Outer", "Inner"] ∧
        List.Forall₂
          (d.IsFrameOf ((Content.activity d).layout settings fun _ => ⟨0, 0⟩).boxes)
          (d.partitions.filter d.isShown)
          ((Content.activity d).layout settings fun _ => ⟨0, 0⟩).groups := by
  intro settings lines
  have down : 0 ≤ settings.activityGap := by decide
  obtain ⟨d, diagnostics, read, framed⟩ := framed_partitions lines (fun _ => ⟨0, 0⟩) down
  obtain ⟨edges, found, _⟩ := Flow.exists_edges lines
  have same := read
  rw [standard_of_edges found] at same
  cases same
  refine ⟨down, _, _, read, ?ranges, ?shown, framed⟩
  case ranges =>
    change (draftOfLines lines).1.partitions = _
    decide +kernel
  case shown =>
    change ((draftOfLines lines).1.partitions.filter (draftOfLines lines).1.isShown).map _ = _
    decide +kernel

/-! ## Frames inside of frames -/

/-- How the frame of a partition lies in that of one around it. -/
structure Contains (d : ActivityDiagram) (p q : Partition) (outer inner : DiagramMarkup.Frame Rat) :
    Prop where
  within : inner.bounds.Within outer.bounds
  /-- The title of the outer frame is free if a node stands between it and the inner frame. -/
  title : outer.bounds.top + partitionTitle ≤ inner.bounds.top ↔
    ∃ i node, d.nodes[i]? = some node ∧ node.isMarker = false ∧ p.start ≤ i ∧ i < q.start
  /-- The frames coincide if all nodes of the outer partition are in the inner one. -/
  same : inner.bounds = outer.bounds ↔
    ∀ i node, d.nodes[i]? = some node → node.isMarker = false → p.Spans i → q.Spans i

namespace Chained

variable {d : ActivityDiagram} {boxes : Table (Box Rat)} {gap : Rat} {p q : Partition}
  {outer inner : DiagramMarkup.Frame Rat} {node : ActivityNode} {i : Nat}

theorem top_lt_bottom (chained : Chained d boxes gap) {box : Box Rat}
    (here : d.nodes[i]? = some node) (found : boxes.get? node.name = some box) :
    box.top < box.bottom := by
  have known := List.mem_of_getElem? here
  have drawn := chained.visible node known box found
  obtain ⟨same, there, positive⟩ := chained.drawn node
    (List.mem_filter.mpr ⟨known, (Bool.not_eq_true' _).mpr drawn⟩)
  cases found.symm.trans there
  change box.y - box.height / 2 < box.y + box.height / 2
  linarith

section

variable (chained : Chained d boxes gap) (wide : 0 ≤ gap) (insider : q ∈ d.partitions)
  (within : p.start ≤ q.start ∧ q.stop ≤ p.stop) (bounded : p.stop ≤ d.nodes.length)
  (foundOuter : d.frame? boxes p = some outer) (foundInner : d.frame? boxes q = some inner)

include within bounded foundOuter foundInner

theorem within_frame : inner.bounds.Within outer.bounds := by
  rw [frame?_eq] at foundOuter foundInner
  refine Frame.within_of_subset foundInner foundOuter fun name member box _ => ?_
  obtain ⟨i, node, here, ⟨start, stop⟩, rfl⟩ := (mem_memberNames (within.2.trans bounded)).mp member
  exact (mem_memberNames bounded).mpr
    ⟨i, node, here, ⟨within.1.trans start, stop.trans_le within.2⟩, rfl⟩

include chained wide insider

/-- A node of the outer partition before the inner one keeps the title of the outer frame free. -/
theorem title_le_top (here : d.nodes[i]? = some node) (drawn : node.isMarker = false)
    (start : p.start ≤ i) (before : i < q.start) :
    outer.bounds.top + partitionTitle ≤ inner.bounds.top := by
  rw [frame?_eq] at foundOuter foundInner
  obtain ⟨name, member, highest, there, top⟩ := Frame.exists_top foundInner
  obtain ⟨j, other, inside, ⟨first, stop⟩, rfl⟩ :=
    (mem_memberNames (within.2.trans bounded)).mp member
  obtain ⟨box, placed⟩ := chained.exists_get? here drawn
  have own := (mem_memberNames bounded).mpr
    ⟨i, node, here, ⟨start, before.trans_le (first.trans (stop.le.trans within.2))⟩, rfl⟩
  have room := (Frame.room_enclosing? foundOuter own placed).1
  have apart := chained.before q insider i j node other here inside ⟨before, first⟩ box highest
    placed there
  have positive := chained.top_lt_bottom here placed
  have padding : (0 : Rat) ≤ partitionPadding := by decide
  linarith

omit insider in
theorem top_le_top (none_before : ∀ i node, d.nodes[i]? = some node → node.isMarker = false →
    p.start ≤ i → q.start ≤ i) : inner.bounds.top ≤ outer.bounds.top := by
  rw [frame?_eq] at foundOuter foundInner
  obtain ⟨name, member, highest, placed, top⟩ := Frame.exists_top foundOuter
  obtain ⟨i, node, here, ⟨start, _⟩, rfl⟩ := (mem_memberNames bounded).mp member
  have drawn := chained.visible node (List.mem_of_getElem? here) highest placed
  have first := none_before i node here drawn start
  rcases Nat.lt_or_ge i q.stop with inside | behind
  · have own := (mem_memberNames (within.2.trans bounded)).mpr ⟨i, node, here, ⟨first, inside⟩, rfl⟩
    have room := (Frame.room_enclosing? foundInner own placed).1
    linarith
  · -- the highest node of the outer partition stands below all of the inner one
    obtain ⟨name, member, upper, there, innerTop⟩ := Frame.exists_top foundInner
    obtain ⟨j, other, inside, ⟨_, stop⟩, rfl⟩ :=
      (mem_memberNames (within.2.trans bounded)).mp member
    have apart := chained.below j i other node inside here (stop.trans_le behind) upper highest
      there placed
    have positive := chained.top_lt_bottom inside there
    linarith

/-- Where the frames coincide, no node of the outer partition is outside of the inner one. -/
theorem spans_of_bounds_eq (same : inner.bounds = outer.bounds) (here : d.nodes[i]? = some node)
    (drawn : node.isMarker = false) (spans : p.Spans i) : q.Spans i := by
  by_contra outside
  rcases Nat.lt_or_ge i q.start with before | first
  · have title := title_le_top chained wide insider within bounded foundOuter foundInner here drawn
      spans.1 before
    have high : (0 : Rat) < partitionTitle := by decide
    rw [same] at title
    linarith
  · have behind : q.stop ≤ i := Nat.le_of_not_lt fun stop => outside ⟨first, stop⟩
    rw [frame?_eq] at foundOuter foundInner
    obtain ⟨name, member, lowest, there, bottom⟩ := Frame.exists_bottom foundInner
    obtain ⟨j, other, inside, ⟨_, stop⟩, rfl⟩ :=
      (mem_memberNames (within.2.trans bounded)).mp member
    obtain ⟨box, placed⟩ := chained.exists_get? here drawn
    have own := (mem_memberNames bounded).mpr ⟨i, node, here, spans, rfl⟩
    have room := (Frame.room_enclosing? foundOuter own placed).2
    have apart := chained.behind q insider j i other node inside here ⟨stop, behind⟩ lowest box
      there placed
    have positive := chained.top_lt_bottom here placed
    have padding : (0 : Rat) < partitionPadding := by decide
    rw [same] at bottom
    linarith

theorem contains : d.Contains p q outer inner where
  within := within_frame within bounded foundOuter foundInner
  title := by
    constructor
    · intro free
      by_contra none_before
      have top := top_le_top chained wide within bounded foundOuter foundInner
        fun i node here drawn start => Nat.le_of_not_lt fun before =>
          none_before ⟨i, node, here, drawn, start, before⟩
      have high : (0 : Rat) < partitionTitle := by decide
      linarith
    · rintro ⟨i, node, here, drawn, start, before⟩
      exact title_le_top chained wide insider within bounded foundOuter foundInner here drawn start
        before
  same := by
    constructor
    · exact fun same i node here drawn spans =>
        spans_of_bounds_eq chained wide insider within bounded foundOuter foundInner same here drawn
          spans
    · intro all
      apply (within_frame within bounded foundOuter foundInner).antisymm
      rw [frame?_eq] at foundOuter foundInner
      refine Frame.within_of_subset foundOuter foundInner fun name member box placed => ?_
      obtain ⟨i, node, here, spans, rfl⟩ := (mem_memberNames bounded).mp member
      have drawn := chained.visible node (List.mem_of_getElem? here) box placed
      exact (mem_memberNames (within.2.trans bounded)).mpr
        ⟨i, node, here, all i node here drawn spans, rfl⟩

end

end Chained

/-- A partition with a node that is drawn has its frame inside of that of every partition that is open
where it is opened. The title of that one is free if it has another node before, and the two frames
coincide if it has no other node at all. -/
theorem nested_frames (lines : List Line) {settings : Settings Rat} (measure : Measure Rat)
    (down : 0 ≤ settings.activityGap) :
    ∃ d diagnostics, Reader.standard .activity lines = .ok (.activity d, diagnostics) ∧
      let l := (Content.activity d).layout settings measure
      (openAround lines).length = d.partitions.length ∧
        ∀ (k : Nat) (q : Partition) (opened : List Nat), d.partitions[k]? = some q →
          (openAround lines)[k]? = some opened → d.isShown q = true →
            ∀ j ∈ opened, ∃ p, d.partitions[j]? = some p ∧
              ∃ outer ∈ l.groups, ∃ inner ∈ l.groups, d.frame? l.boxes p = some outer ∧
                d.frame? l.boxes q = some inner ∧ d.Contains p q outer inner := by
  obtain ⟨edges, found, chained, groups⟩ := exists_chained lines measure down
  have bounded := bounded_draftOfLines lines
  have encloses := encloses_draftOfLines lines
  refine ⟨_, _, standard_of_edges found, encloses.length, ?_⟩
  intro k q opened inside around shown j isOpen
  have before := (encloses.within j k opened around isOpen).1
  have known := before.trans (List.getElem?_eq_some_iff.mp inside).1
  have there := List.getElem?_eq_getElem known
  have within := within_of_enclosing lines around isOpen there inside
  have member := List.mem_of_getElem? inside
  have memberOuter := List.mem_of_getElem? there
  have shownOuter :
      isShown { (draftOfLines lines).1 with edges } (draftOfLines lines).1.partitions[j] := by
    obtain ⟨i, node, here, drawn, start, stop⟩ := isShown_iff.mp shown
    exact isShown_iff.mpr ⟨i, node, here, drawn, within.1.trans start, stop.trans_le within.2⟩
  obtain ⟨outer, foundOuter⟩ := chained.exists_frame? (bounded _ memberOuter) shownOuter
  obtain ⟨inner, foundInner⟩ := chained.exists_frame? (bounded q member) shown
  refine ⟨_, there, outer, ?_, inner, ?_, foundOuter, foundInner,
    chained.contains down member within (bounded _ memberOuter) foundOuter foundInner⟩
  · rw [groups]
    exact List.mem_filterMap.mpr ⟨_, memberOuter, foundOuter⟩
  · rw [groups]
    exact List.mem_filterMap.mpr ⟨q, member, foundInner⟩

/-- A partition inside of another one, with a node of the outer one before it. -/
theorem nested_frames_behind :
    let settings : Settings Rat := { Settings.standard with activityGap := 0 }
    let lines : List Line :=
      [⟨1, "partition P \x7b"⟩, ⟨2, ":a;"⟩, ⟨3, "partition Q \x7b"⟩, ⟨4, ":b;"⟩, ⟨5, "\x7d"⟩,
        ⟨6, "\x7d"⟩]
    0 ≤ settings.activityGap ∧
      ∃ d diagnostics, Reader.standard .activity lines = .ok (.activity d, diagnostics) ∧
        let l := (Content.activity d).layout settings fun _ => ⟨0, 0⟩
        d.partitions = [⟨"P", 0, 2, none⟩, ⟨"Q", 1, 2, some "P"⟩] ∧ openAround lines = [[], [0]] ∧
          ∃ outer ∈ l.groups, ∃ inner ∈ l.groups,
            d.Contains ⟨"P", 0, 2, none⟩ ⟨"Q", 1, 2, some "P"⟩ outer inner := by
  intro settings lines
  have down : 0 ≤ settings.activityGap := by decide
  obtain ⟨d, diagnostics, read, _, frames⟩ := nested_frames lines (fun _ => ⟨0, 0⟩) down
  obtain ⟨edges, found, _⟩ := Flow.exists_edges lines
  have same := read
  rw [standard_of_edges found] at same
  cases same
  have ranges : (draftOfLines lines).1.partitions = [⟨"P", 0, 2, none⟩, ⟨"Q", 1, 2, some "P"⟩] := by
    decide +kernel
  have around : openAround lines = [[], [0]] := by decide +kernel
  have shown : (draftOfLines lines).1.isShown ⟨"Q", 1, 2, some "P"⟩ = true := by decide +kernel
  refine ⟨down, _, _, read, ranges, around, ?_⟩
  obtain ⟨p, there, outer, member, inner, memberInner, _, _, contains⟩ :=
    frames 1 ⟨"Q", 1, 2, some "P"⟩ [0] (by rw [ranges]; rfl) (by rw [around]; rfl) shown 0
      (List.mem_singleton_self 0)
  rw [ranges] at there
  cases there
  exact ⟨outer, member, inner, memberInner, contains⟩

/-- Two partitions around one node: the frame of the inner one hides that of the outer one. -/
theorem frames_coincide :
    let settings : Settings Rat := .standard
    let lines : List Line :=
      [⟨1, "partition P \x7b"⟩, ⟨2, "partition Q \x7b"⟩, ⟨3, ":a;"⟩, ⟨4, "\x7d"⟩, ⟨5, "\x7d"⟩]
    ∃ d diagnostics, Reader.standard .activity lines = .ok (.activity d, diagnostics) ∧
      d.partitions = [⟨"P", 0, 1, none⟩, ⟨"Q", 0, 1, some "P"⟩] ∧ openAround lines = [[], [0]] ∧
      d.isShown ⟨"Q", 0, 1, some "P"⟩ = true ∧
      ((Content.activity d).layout settings (CellFactors.standard.measure settings.fontSize)).groups =
        [⟨"P", 40, 40, 164, 88⟩, ⟨"Q", 40, 40, 164, 88⟩] := by
  intro settings lines
  have found : Flow.edges (draftOfLines lines).1.nodes = .ok [] := by decide +kernel
  refine ⟨_, _, standard_of_edges found, ?_⟩
  decide +kernel

end ActivityDiagram

end DiagramMarkup
