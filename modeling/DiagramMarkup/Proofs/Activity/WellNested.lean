import DiagramMarkup.Proofs.Activity.Nesting
import DiagramMarkup.Proofs.Tables
import Mathlib.Data.List.Nodup

/-! # Every activity that is read is well nested

The stack of a draft mirrors the stack of the scan over its nodes. Every move keeps it so, and the end
of the reading closes what the stack still holds.
-/

namespace DiagramMarkup

open ActivityDiagram

namespace ActivityDiagram

/-- The name of the node at a place. -/
def nodeName (place : Nat) : String :=
  s!"a{place}"

theorem nodeName_injective {i j : Nat} (h : nodeName i = nodeName j) : i = j :=
  numbered_injective "a" h

end ActivityDiagram

namespace Nesting

/-- The nodes are named by their places and pass the scan, and only those that separate or close
belong to another node. -/
structure Nested (nodes stack : List ActivityNode) : Prop where
  named : nodes.map ActivityNode.name = (List.range nodes.length).map nodeName
  scanned : scan [] nodes = some stack
  owned : ∀ node ∈ nodes, ∀ opener, node.opener = some opener → node.role.isInner = true

/-- A node is the opener of an open construct. -/
def Opened (frame : ActivityDiagram.Frame) (node : ActivityNode) : Prop :=
  node.role = .opens frame.kind ∧ node.name = frame.opener

/-- The stack of the scan over the nodes of a draft mirrors the stack of the draft. -/
structure Mirrors (draft : Draft) (stack : List ActivityNode) : Prop extends
    Nested draft.nodes stack where
  frames : List.Forall₂ Opened draft.frames stack

variable {nodes others stack behind : List ActivityNode} {node : ActivityNode} {draft next : Draft}

theorem Nested.append (nested : Nested nodes stack) (name : node.name = nodeName nodes.length)
    (passes : Passes node stack behind)
    (owned : ∀ opener, node.opener = some opener → node.role.isInner = true) :
    Nested (nodes ++ [node]) behind where
  named := by
    simp only [List.map_append, List.length_append, List.length_cons, List.length_nil,
      List.range_succ, nested.named, List.map_cons, List.map_nil, name, Nat.zero_add]
  scanned := scan_append_singleton nested.scanned passes
  owned other member := by
    rcases List.mem_append.mp member with member | member
    · exact nested.owned other member
    · cases List.mem_singleton.mp member
      exact owned

theorem Nested.of_core (nested : Nested nodes stack)
    (same : others.map ActivityNode.core = nodes.map ActivityNode.core) :
    ∃ stack', Nested others stack' ∧ stack'.map ActivityNode.core = stack.map ActivityNode.core := by
  have scanned : (scan [] others).map (·.map ActivityNode.core) =
      some (stack.map ActivityNode.core) := by
    rw [← scan_core [] others, same, scan_core [] nodes, nested.scanned, Option.map_some]
  obtain ⟨stack', scanned, cores⟩ := Option.map_eq_some_iff.mp scanned
  refine ⟨stack', ⟨?_, scanned, ?_⟩, cores⟩
  · have names (l : List ActivityNode) : l.map ActivityNode.name = (l.map ActivityNode.core).map
        ActivityNode.name := by rw [List.map_map]; rfl
    have length : others.length = nodes.length := by
      simpa only [List.length_map] using congrArg List.length same
    rw [names, same, ← names, nested.named, length]
  · intro node member opener owner
    have member : node.core ∈ nodes.map ActivityNode.core := same ▸ List.mem_map_of_mem member
    obtain ⟨origin, member, core⟩ := List.mem_map.mp member
    have owner : origin.opener = some opener := by
      rw [← owner, ← origin.core_opener, core, node.core_opener]
    rw [← node.core_role, ← core, origin.core_role]
    exact nested.owned origin member opener owner

theorem closing_role (frame : ActivityDiagram.Frame) (label : Option String) :
    ({ name := ""
       kind := if frame.kind = .fork then .join else .merge
       label := ""
       opener := some frame.opener
       looping := frame.kind = .loop
       branchLabel := nonempty? label } : ActivityNode).role = .closes frame.kind := by
  obtain ⟨kind, opener⟩ := frame
  cases kind <;> rfl

theorem Nested.pushClosing {top : ActivityNode} {frame : ActivityDiagram.Frame}
    (nested : Nested draft.nodes (top :: stack)) (opened : Opened frame top) (label : Option String) :
    Nested (draft.pushClosing frame label).nodes stack := by
  have role := closing_role frame label
  refine nested.append rfl (.closes role opened.1 (congrArg some opened.2.symm)) ?_
  intro _ _
  exact congrArg Role.isInner role

theorem owned_of_none (opener : node.opener = none) (other : String)
    (owner : node.opener = some other) : node.role.isInner = true := by
  cases opener.symm.trans owner

namespace Mirrors

variable (mirrors : Mirrors draft stack)

include mirrors

theorem nested_push (passes : Passes (draft.placed node) stack behind)
    (owned : ∀ opener, node.opener = some opener → node.role.isInner = true) :
    Nested (draft.push node).nodes behind :=
  mirrors.toNested.append rfl passes owned

theorem push_alone (role : node.role = .alone) (opener : node.opener = none) :
    Mirrors (draft.push node) stack where
  toNested := mirrors.nested_push (.alone role) (owned_of_none opener)
  frames := mirrors.frames

theorem openFrame {kind : FrameKind} (role : node.role = .opens kind) (opener : node.opener = none) :
    Mirrors (draft.openFrame kind node) (draft.placed node :: stack) where
  toNested := mirrors.nested_push (.opens role) (owned_of_none opener)
  frames := .cons ⟨role, rfl⟩ mirrors.frames

theorem mark {kind : FrameKind} (role : node.role = .separates kind)
    (marked : draft.mark? kind node = some next) : Mirrors next stack := by
  obtain ⟨frame, below, open_frames, rfl, rfl⟩ := Draft.exists_of_mark? marked
  have frames := mirrors.frames
  rw [open_frames] at frames
  cases frames with
  | cons opened rest =>
      refine ⟨mirrors.nested_push (.separates role opened.1 ?_) ?_, mirrors.frames⟩
      · exact congrArg some opened.2.symm
      · intro _ _
        exact congrArg Role.isInner role

theorem close {kind : FrameKind} {label : Option String}
    (closed : draft.close? kind label = some next) : ∃ below, Mirrors next below := by
  obtain ⟨frame, others, open_frames, rfl, rfl⟩ := Draft.exists_of_close? closed
  have frames := mirrors.frames
  have nested := mirrors.toNested
  rw [open_frames] at frames
  cases frames with
  | cons opened rest =>
      refine ⟨_, ?_, rest⟩
      exact Nested.pushClosing nested opened label

end Mirrors

theorem map_changeLast {α β : Type} (test : α → Bool) (f : α → α) (view : α → β)
    (same : ∀ a, view (f a) = view a) (items : List α) :
    (changeLast test f items).map view = items.map view := by
  have first (l : List α) : (changeFirst test f l).map view = l.map view := by
    induction l with
    | nil => rfl
    | cons a l ih =>
        unfold changeFirst
        split
        · simp only [List.map_cons, same]
        · simp only [List.map_cons, ih]
  rw [changeLast, List.map_reverse, first, List.map_reverse, List.reverse_reverse]

theorem map_attachNote {β : Type} (view : ActivityNode → β)
    (same : ∀ (node : ActivityNode) (note : Option String), view { node with note } = view node)
    (draft : Draft) (text : String) :
    (draft.attachNote text).nodes.map view = draft.nodes.map view := by
  apply map_changeLast
  intro node
  exact same node _

theorem attachNote_core (draft : Draft) (text : String) :
    (draft.attachNote text).nodes.map ActivityNode.core = draft.nodes.map ActivityNode.core :=
  map_attachNote _ (fun _ _ => rfl) draft text

theorem Mirrors.attachNote (mirrors : Mirrors draft stack) (text : String) :
    ∃ stack', Mirrors (draft.attachNote text) stack' := by
  obtain ⟨stack', nested, cores⟩ := mirrors.toNested.of_core (attachNote_core draft text)
  refine ⟨stack', nested, ?_⟩
  -- Whether a node is the opener of a frame can be told from its core.
  have frames : List.Forall₂ Opened draft.frames (stack.map ActivityNode.core) :=
    (List.forall₂_map_right_iff (f := ActivityNode.core)).mpr mirrors.frames
  rw [← cores] at frames
  exact (List.forall₂_map_right_iff (f := ActivityNode.core)).mp frames

/-- Every move keeps the stacks alike. -/
theorem Mirrors.move (mirrors : Mirrors draft stack) (move : Move draft next) :
    ∃ stack', Mirrors next stack' := by
  cases move with
  | alone node role opener => exact ⟨_, mirrors.push_alone role opener⟩
  | opens kind node role opener => exact ⟨_, mirrors.openFrame role opener⟩
  | separates kind node next role _ marked => exact ⟨_, mirrors.mark role marked⟩
  | closes kind label next closed => exact mirrors.close closed
  | switchesLane name => exact ⟨stack, mirrors.toNested, mirrors.frames⟩
  | opensPartition name => exact ⟨stack, mirrors.toNested, mirrors.frames⟩
  | closesPartition next closed =>
      obtain ⟨place, places, _, rfl⟩ := Draft.exists_of_closePartition? closed
      exact ⟨stack, mirrors.toNested, mirrors.frames⟩
  | attachesNote text => exact mirrors.attachNote text
  | stays => exact ⟨stack, mirrors⟩

theorem nested_closeAll {frames : List ActivityDiagram.Frame}
    (opened : List.Forall₂ Opened frames stack) (nested : Nested draft.nodes stack) :
    Nested (frames.foldl (fun draft frame => draft.pushClosing frame none) draft).nodes [] := by
  induction opened generalizing draft with
  | nil => exact nested
  | cons opened _ ih => exact ih (nested.pushClosing opened none)

theorem endPartitions_nodes (places : List Nat) (draft : Draft) :
    (places.foldl Draft.endPartition draft).nodes = draft.nodes := by
  induction places generalizing draft with
  | nil => rfl
  | cons place places ih => exact ih (draft.endPartition place)

theorem Mirrors.finish (mirrors : Mirrors draft stack) : Nested draft.finish.nodes [] := by
  have closed := nested_closeAll mirrors.frames mirrors.toNested
  simpa only [Draft.finish, endPartitions_nodes] using closed

/-- The nodes of every activity that is read pass the scan and leave nothing open. -/
theorem nested_draftOfLines (lines : List Line) : Nested (draftOfLines lines).1.nodes [] := by
  have start : Mirrors {} [] :=
    { named := rfl
      scanned := rfl
      owned := fun _ member => absurd member List.not_mem_nil
      frames := .nil }
  have reached : ∃ stack, Mirrors (readAll turn {} lines).1 stack :=
    readAll_invariant (P := fun draft => ∃ stack, Mirrors draft stack)
      (fun draft line rest ⟨_, mirrors⟩ => mirrors.move (Move.of_turn draft line rest))
      ⟨[], start⟩ lines
  obtain ⟨stack, mirrors⟩ := reached
  exact mirrors.finish

theorem Nested.name_eq (nested : Nested nodes stack) {place : Nat} (here : nodes[place]? = some node) :
    node.name = nodeName place := by
  have names := congrArg (·[place]?) nested.named
  have inside : place < nodes.length := (List.getElem?_eq_some_iff.mp here).1
  simpa only [List.getElem?_map, here, List.getElem?_range inside, Option.map_some,
    Option.some.injEq] using names

theorem Nested.nodup (nested : Nested nodes stack) : (nodes.map ActivityNode.name).Nodup := by
  rw [nested.named]
  exact List.nodup_range.map fun _ _ same => nodeName_injective same

theorem Nested.earlier (nested : Nested nodes stack) {place : Nat} {opener : String}
    (here : nodes[place]? = some node) (owner : node.opener = some opener) :
    ∃ earlier target, earlier < place ∧ nodes[earlier]? = some target ∧ target.name = opener := by
  have inner := nested.owned node (List.mem_of_getElem? here) opener owner
  obtain ⟨target, before, name⟩ := scan_opener nested.scanned here inner
  rw [List.nil_append] at before
  obtain ⟨earlier, at_earlier⟩ := List.mem_iff_getElem?.mp before
  have bound : earlier < place := by
    have inside := (List.getElem?_eq_some_iff.mp at_earlier).1
    simp only [List.length_take] at inside
    omega
  rw [List.getElem?_take_of_lt bound] at at_earlier
  exact ⟨earlier, target, bound, at_earlier, Option.some.inj (name.symm.trans owner)⟩

/-- A decision opens a loop or a conditional, and a merge closes one of them. -/
theorem countP_branching (nodes : List ActivityNode) :
    nodes.countP (·.kind = .decision) =
        nodes.countP (·.role = .opens .loop) + nodes.countP (·.role = .opens .conditional) ∧
      nodes.countP (·.kind = .merge) =
        nodes.countP (·.role = .closes .loop) + nodes.countP (·.role = .closes .conditional) := by
  induction nodes with
  | nil => exact ⟨rfl, rfl⟩
  | cons node nodes ih =>
      obtain ⟨name, kind, label, yes, branch, opener, looping, lane, partition, note⟩ := node
      cases kind <;> cases looping <;>
        simp [ActivityNode.role, ActivityNode.branching, ih] <;> omega

theorem countP_fork (nodes : List ActivityNode) :
    nodes.countP (·.kind = .fork) = nodes.countP (·.role = .opens .fork) ∧
      nodes.countP (·.kind = .join) = nodes.countP (·.role = .closes .fork) := by
  induction nodes with
  | nil => exact ⟨rfl, rfl⟩
  | cons node nodes ih =>
      obtain ⟨name, kind, label, yes, branch, opener, looping, lane, partition, note⟩ := node
      cases kind <;> cases looping <;> simp [ActivityNode.role, ActivityNode.branching, ih]

/-- The nodes of an activity are nested without any crossing or missing end. -/
structure WellNested (d : ActivityDiagram) : Prop where
  /-- Every node is named by its place. -/
  named : ∀ (place : Nat) (node : ActivityNode), d.nodes[place]? = some node →
    node.name = s!"a{place}"
  /-- The scan meets no node that does not fit, and nothing stays open. -/
  scanned : scan [] d.nodes = some []
  merges : d.count .merge = d.count .decision
  joins : d.count .join = d.count .fork
  /-- What a node belongs to comes before it. -/
  earlier : ∀ (place : Nat) (node : ActivityNode) (opener : String),
    d.nodes[place]? = some node → node.opener = some opener →
      ∃ earlier target, earlier < place ∧ d.nodes[earlier]? = some target ∧ target.name = opener

/-- Whatever the lines open, separate and close, and in whichever order, the activity that they give
is well nested. -/
theorem wellNested_draftOfLines (lines : List Line) : WellNested (draftOfLines lines).1 := by
  have nested := nested_draftOfLines lines
  have balanced (kind : FrameKind) := scan_count kind nested.scanned
  simp only [List.countP_nil, Nat.add_zero] at balanced
  exact {
    named := fun place node here => nested.name_eq here
    scanned := nested.scanned
    merges := by
      simp only [ActivityDiagram.count, (countP_branching _).1, (countP_branching _).2, balanced]
    joins := by simp only [ActivityDiagram.count, (countP_fork _).1, (countP_fork _).2, balanced]
    earlier := fun place node opener here owner => nested.earlier here owner }

end Nesting

end DiagramMarkup
