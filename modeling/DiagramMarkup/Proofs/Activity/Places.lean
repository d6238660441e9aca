import DiagramMarkup.Proofs.Activity.Tree
import Mathlib.Data.List.Nodup

/-! # Where the nodes of a tree stand

A tree that is part of a longer list of nodes finds its own nodes there by their names: its closing
nodes and markers belong to openers of the tree, and nothing outside of the tree belongs to them.
-/

namespace DiagramMarkup

open ActivityDiagram Nesting

namespace Flow

variable {nodes : List ActivityNode} {node : ActivityNode}

variable {test : ActivityNode → Bool}

theorem places_append (test : ActivityNode → Bool) (before behind : List ActivityNode) (start : Nat) :
    places test (before ++ behind) start =
      places test before start ++ places test behind (start + before.length) := by
  induction before generalizing start with
  | nil => rfl
  | cons node before ih =>
      simp only [List.cons_append, places, ih, List.length_cons]
      split <;> simp only [List.cons_append, Nat.add_right_comm, Nat.add_assoc]

theorem places_eq_nil (h : ∀ node ∈ nodes, test node = false) (start : Nat) :
    places test nodes start = [] := by
  induction nodes generalizing start with
  | nil => rfl
  | cons node nodes ih =>
      have here := h node List.mem_cons_self
      simp only [places, here, Bool.false_eq_true, if_false]
      exact ih (fun other member => h other (List.mem_cons_of_mem node member)) (start + 1)

/-- The names that the nodes which separate and close belong to. -/
def mentioned (nodes : List ActivityNode) : List String :=
  nodes.filterMap fun node => if node.role.isInner then node.opener else none

@[simp] theorem mentioned_nil : mentioned [] = [] := rfl

theorem mentioned_append (before behind : List ActivityNode) :
    mentioned (before ++ behind) = mentioned before ++ mentioned behind :=
  List.filterMap_append

theorem mentioned_cons_outer (outer : node.role.isInner = false) :
    mentioned (node :: nodes) = mentioned nodes := by
  simp only [mentioned, List.filterMap_cons, outer, Bool.false_eq_true, if_false]

theorem mentioned_cons_inner {opener : String} (inner : node.role.isInner = true)
    (owner : node.opener = some opener) : mentioned (node :: nodes) = opener :: mentioned nodes := by
  simp only [mentioned, List.filterMap_cons, inner, if_true, owner]

/-- What does not mention an opener neither closes it nor separates its branches. -/
theorem not_owned_of_not_mentioned {opener : String} (h : opener ∉ mentioned nodes) :
    (∀ node ∈ nodes, (node.isClosing && node.opener = some opener) = false) ∧
      ∀ node ∈ nodes, (node.isMarker && node.opener = some opener) = false := by
  have absent (node : ActivityNode) (member : node ∈ nodes) (inner : node.role.isInner = true) :
      node.opener ≠ some opener := by
    intro owner
    exact h (List.mem_filterMap.mpr ⟨node, member, by simp only [inner, if_true, owner]⟩)
  constructor
  · intro node member
    have absent := absent node member
    cases role : node.role <;> simp_all [ActivityNode.isClosing_eq, Role.isEnd, Role.isInner]
  · intro node member
    have absent := absent node member
    cases role : node.role <;> simp_all [ActivityNode.isMarker_eq, Role.isSeparator, Role.isInner]

end Flow

mutual
theorem Block.mem_of_mentioned : ∀ block : Block, block.Fits → block.Bound →
    ∀ name ∈ Flow.mentioned block.nodes, name ∈ block.nodes.map ActivityNode.name
  | .done, _, _ => fun _ member => member
  | .simple node block, ⟨role, fits⟩, bound => by
      intro name member
      rw [Block.nodes, Flow.mentioned_cons_outer (congrArg Role.isInner role)] at member
      exact List.mem_cons_of_mem _ (Block.mem_of_mentioned block fits bound name member)
  | .construct kind opener first others closing block, ⟨opens, firstFits, othersFit, closes, fits⟩,
      ⟨firstBound, othersBound, owner, bound⟩ => by
      intro name member
      rw [Block.nodes, Flow.mentioned_cons_outer (congrArg Role.isInner opens),
        Flow.mentioned_append, Flow.mentioned_append,
        Flow.mentioned_cons_inner (congrArg Role.isInner closes) owner] at member
      simp only [List.mem_append, List.mem_cons] at member
      simp only [Block.nodes, List.map_cons, List.map_append, List.mem_cons, List.mem_append]
      rcases member with member | member | rfl | member
      · exact .inr (.inl (Block.mem_of_mentioned first firstFits firstBound name member))
      · rcases Branches.mem_of_mentioned others othersFit othersBound name member with rfl | member
        · exact .inl rfl
        · exact .inr (.inr (.inl member))
      · exact .inl rfl
      · exact .inr (.inr (.inr (.inr (Block.mem_of_mentioned block fits bound name member))))

theorem Branches.mem_of_mentioned {kind : FrameKind} {opener : String} :
    ∀ others : Branches, others.Fits kind → others.Bound opener →
      ∀ name ∈ Flow.mentioned others.nodes,
        name = opener ∨ name ∈ others.nodes.map ActivityNode.name
  | .done, _, _ => fun _ member => .inr member
  | .branch marker block others, ⟨separates, fits, othersFit⟩, ⟨owner, bound, othersBound⟩ => by
      intro name member
      rw [Branches.nodes, Flow.mentioned_cons_inner (congrArg Role.isInner separates) owner,
        Flow.mentioned_append] at member
      simp only [List.mem_append, List.mem_cons] at member
      simp only [Branches.nodes, List.map_cons, List.map_append, List.mem_cons, List.mem_append]
      rcases member with rfl | member | member
      · exact .inl rfl
      · exact .inr (.inr (.inl (Block.mem_of_mentioned block fits bound name member)))
      · rcases Branches.mem_of_mentioned others othersFit othersBound name member with rfl | member
        · exact .inl rfl
        · exact .inr (.inr (.inr member))
end

/-- Some nodes are part of a longer list in which nothing else belongs to them. -/
structure Within (nodes before inside behind : List ActivityNode) : Prop where
  split : nodes = before ++ (inside ++ behind)
  nodup : (nodes.map ActivityNode.name).Nodup
  apart : ∀ name ∈ inside.map ActivityNode.name,
    name ∉ Flow.mentioned before ∧ name ∉ Flow.mentioned behind

namespace Within

variable {nodes before behind : List ActivityNode} {node opener closing : ActivityNode}
  {kind : FrameKind} {first rest : Block} {others : Branches}

theorem nodup_inside {inside : List ActivityNode} (within : Within nodes before inside behind) :
    (inside.map ActivityNode.name).Nodup := by
  have nodup := within.nodup
  rw [within.split, List.map_append, List.map_append] at nodup
  exact (List.nodup_append'.mp (List.nodup_append'.mp nodup).2.1).1

theorem simple_rest (within : Within nodes before (Block.simple node rest).nodes behind)
    (role : node.role = .alone) : Within nodes (before ++ [node]) rest.nodes behind where
  split := by simpa only [Block.nodes, List.append_assoc, List.cons_append, List.nil_append] using
    within.split
  nodup := within.nodup
  apart name member := by
    rw [Flow.mentioned_append, Flow.mentioned_cons_outer (congrArg Role.isInner role)]
    simpa only [Flow.mentioned, List.filterMap_nil, List.append_nil] using
      within.apart name (List.mem_cons_of_mem _ member)

theorem branch_parts {marker : ActivityNode} {block : Block} {opener : String}
    (within : Within nodes before (Branches.branch marker block others).nodes behind)
    (separates : marker.role = .separates kind) (fits : block.Fits) (othersFit : others.Fits kind)
    (owner : marker.opener = some opener) (bound : block.Bound) (othersBound : others.Bound opener)
    (absent : opener ∉ (Branches.branch marker block others).nodes.map ActivityNode.name) :
    Within nodes (before ++ [marker]) block.nodes (others.nodes ++ behind) ∧
      Within nodes (before ++ marker :: block.nodes) others.nodes behind := by
  have split := within.split
  have nodup := within.nodup_inside
  have apart := within.apart
  have inBlock := Block.mem_of_mentioned block fits bound
  have inOthers := Branches.mem_of_mentioned others othersFit othersBound
  simp only [Branches.nodes, List.map_cons, List.map_append, List.nodup_cons, List.nodup_append',
    List.mem_cons, List.mem_append, List.Disjoint] at nodup apart absent
  simp only [Branches.nodes, List.cons_append, List.append_assoc] at split
  refine ⟨⟨?_, within.nodup, fun name member => ?_⟩, ⟨?_, within.nodup, fun name member => ?_⟩⟩
  case refine_1 | refine_3 =>
    simpa only [List.append_assoc, List.cons_append, List.nil_append] using split
  all_goals
    have apart := apart name
    have inBlock := inBlock name
    have inOthers := inOthers name
    simp only [Flow.mentioned_append, Flow.mentioned_cons_inner (congrArg Role.isInner separates)
      owner, Flow.mentioned_nil, List.mem_append, List.mem_cons, List.not_mem_nil, or_false, not_or]
    grind

section

variable (within : Within nodes before (Block.construct kind opener first others closing rest).nodes
    behind)
  (fits : (Block.construct kind opener first others closing rest).Fits)
  (bound : (Block.construct kind opener first others closing rest).Bound)

include within fits bound

/-- The parts of a construct: its first branch, its other branches, and what follows it. -/
theorem construct_parts :
    Within nodes (before ++ [opener]) first.nodes
        (others.nodes ++ closing :: (rest.nodes ++ behind)) ∧
      Within nodes (before ++ opener :: first.nodes) others.nodes
        (closing :: (rest.nodes ++ behind)) ∧
      Within nodes (before ++ opener :: (first.nodes ++ (others.nodes ++ [closing]))) rest.nodes
        behind := by
  have split := within.split
  have nodup := within.nodup_inside
  have apart := within.apart
  obtain ⟨opens, firstFits, othersFit, closes, restFits⟩ := fits
  obtain ⟨firstBound, othersBound, owner, restBound⟩ := bound
  have inFirst := Block.mem_of_mentioned first firstFits firstBound
  have inOthers := Branches.mem_of_mentioned others othersFit othersBound
  have inRest := Block.mem_of_mentioned rest restFits restBound
  simp only [Block.nodes, List.map_cons, List.map_append, List.nodup_cons, List.nodup_append',
    List.mem_cons, List.mem_append, List.Disjoint] at nodup apart
  simp only [Block.nodes, List.cons_append, List.append_assoc] at split
  refine ⟨⟨?_, within.nodup, fun name member => ?_⟩, ⟨?_, within.nodup, fun name member => ?_⟩,
    ⟨?_, within.nodup, fun name member => ?_⟩⟩
  case refine_1 | refine_3 | refine_5 =>
    simpa only [List.append_assoc, List.cons_append, List.nil_append] using split
  all_goals
    have apart := apart name
    have inFirst := inFirst name
    have inOthers := inOthers name
    have inRest := inRest name
    simp only [Flow.mentioned_append, Flow.mentioned_cons_outer (congrArg Role.isInner opens),
      Flow.mentioned_cons_inner (congrArg Role.isInner closes) owner, Flow.mentioned_nil,
      List.append_nil, List.mem_append, List.mem_cons, not_or]
    grind

/-- Only its own closing node and markers mention the opener of a construct. -/
theorem construct_opener :
    opener.name ∉ Flow.mentioned before ∧ opener.name ∉ Flow.mentioned first.nodes ∧
      opener.name ∉ others.nodes.map ActivityNode.name ∧ opener.name ∉ Flow.mentioned rest.nodes ∧
        opener.name ∉ Flow.mentioned behind := by
  have nodup := within.nodup_inside
  obtain ⟨before_apart, behind_apart⟩ := within.apart opener.name List.mem_cons_self
  obtain ⟨opens, firstFits, othersFit, closes, restFits⟩ := fits
  obtain ⟨firstBound, othersBound, owner, restBound⟩ := bound
  have inFirst := Block.mem_of_mentioned first firstFits firstBound opener.name
  have inRest := Block.mem_of_mentioned rest restFits restBound opener.name
  simp only [Block.nodes, List.map_cons, List.map_append, List.nodup_cons, List.mem_cons,
    List.mem_append, not_or] at nodup
  obtain ⟨⟨notFirst, notOthers, _, notRest⟩, _⟩ := nodup
  exact ⟨before_apart, fun member => notFirst (inFirst member), notOthers,
    fun member => notRest (inRest member), behind_apart⟩

end

end Within

/-- The places of the markers of branches, the first of which stands at the given place. -/
def Branches.places (start : Nat) : Branches → List Nat
  | .done => []
  | .branch _ block rest => start :: rest.places (start + 1 + block.nodes.length)

namespace Flow

variable {nodes before behind : List ActivityNode} {opener closing : ActivityNode}
  {kind : FrameKind} {first rest : Block} {others : Branches}

theorem places_branches {opener : String} (others : Branches) (fits : others.Fits kind)
    (bound : others.Bound opener) (absent : opener ∉ others.nodes.map ActivityNode.name)
    (start : Nat) :
    places (fun n => n.isMarker && n.opener = some opener) others.nodes start =
        others.places start ∧
      places (fun n => n.isClosing && n.opener = some opener) others.nodes start = [] := by
  match others with
  | .done => exact ⟨rfl, rfl⟩
  | .branch marker block others =>
      obtain ⟨separates, blockFits, othersFit⟩ := fits
      obtain ⟨owner, blockBound, othersBound⟩ := bound
      simp only [Branches.nodes, List.map_cons, List.map_append, List.mem_cons, List.mem_append,
        not_or] at absent
      obtain ⟨_, notInBlock, notInOthers⟩ := absent
      have unmentioned : opener ∉ mentioned block.nodes := fun member =>
        notInBlock (Block.mem_of_mentioned block blockFits blockBound opener member)
      obtain ⟨noClosing, noMarker⟩ := not_owned_of_not_mentioned unmentioned
      obtain ⟨markersAt, closingsAt⟩ := places_branches others othersFit othersBound notInOthers
        (start + 1 + block.nodes.length)
      constructor
      · simp only [Branches.nodes, Flow.places, marker.isMarker_eq, separates, Role.isSeparator, owner,
          decide_true, Bool.and_self, if_true, places_append, places_eq_nil noMarker,
          List.nil_append, markersAt, Branches.places]
      · simp only [Branches.nodes, Flow.places, marker.isClosing_eq, separates, Role.isEnd,
          Bool.false_and, Bool.false_eq_true, if_false, places_append, places_eq_nil noClosing,
          List.nil_append, closingsAt]

section

variable (within : Within nodes before (Block.construct kind opener first others closing rest).nodes
    behind)
  (fits : (Block.construct kind opener first others closing rest).Fits)
  (bound : (Block.construct kind opener first others closing rest).Bound)

include within fits bound

/-- The markers of a construct are found by the name of its opener. -/
theorem markers_construct :
    markers nodes opener.name = others.places (before.length + 1 + first.nodes.length) := by
  obtain ⟨notBefore, notFirst, notOthers, notRest, notBehind⟩ := within.construct_opener fits bound
  have split := within.split
  obtain ⟨opens, firstFits, othersFit, closes, restFits⟩ := fits
  obtain ⟨firstBound, othersBound, owner, restBound⟩ := bound
  simp only [markers, split, Block.nodes, List.cons_append, List.append_assoc, places_append,
    Flow.places, opener.isMarker_eq, closing.isMarker_eq, opens, closes, Role.isSeparator,
    Bool.false_and, Bool.false_eq_true, if_false,
    places_eq_nil (not_owned_of_not_mentioned notBefore).2,
    places_eq_nil (not_owned_of_not_mentioned notFirst).2,
    places_eq_nil (not_owned_of_not_mentioned notRest).2,
    places_eq_nil (not_owned_of_not_mentioned notBehind).2,
    (places_branches others othersFit othersBound notOthers _).1, List.nil_append, List.append_nil,
    Nat.zero_add]

theorem closing_construct :
    Flow.closing nodes opener.name =
      .ok (before.length + 1 + first.nodes.length + others.nodes.length) := by
  obtain ⟨notBefore, notFirst, notOthers, notRest, notBehind⟩ := within.construct_opener fits bound
  have split := within.split
  obtain ⟨opens, firstFits, othersFit, closes, restFits⟩ := fits
  obtain ⟨firstBound, othersBound, owner, restBound⟩ := bound
  simp only [Flow.closing, split, Block.nodes, List.cons_append, List.append_assoc, places_append,
    Flow.places, opener.isClosing_eq, closing.isClosing_eq, opens, closes, owner, Role.isEnd,
    Bool.false_and, Bool.true_and, Bool.false_eq_true, decide_true, if_false, if_true,
    places_eq_nil (not_owned_of_not_mentioned notBefore).1,
    places_eq_nil (not_owned_of_not_mentioned notFirst).1,
    places_eq_nil (not_owned_of_not_mentioned notRest).1,
    places_eq_nil (not_owned_of_not_mentioned notBehind).1,
    (places_branches others othersFit othersBound notOthers _).2, List.nil_append, List.append_nil,
    Nat.zero_add, List.getLast?_singleton]

omit fits bound in
theorem named_construct :
    (places (fun n => n.name = opener.name) nodes).head? = some before.length := by
  have nodup := within.nodup
  rw [within.split, List.map_append] at nodup
  have disjoint := (List.nodup_append'.mp nodup).2.2
  have absent : ∀ node ∈ before, decide (node.name = opener.name) = false := by
    intro node member
    apply decide_eq_false
    intro same
    have here : opener.name ∈ before.map ActivityNode.name := same ▸ List.mem_map_of_mem member
    exact disjoint here List.mem_cons_self
  simp only [within.split, Block.nodes, List.cons_append, places_append, places_eq_nil absent,
    List.nil_append, Nat.zero_add, Flow.places, decide_true, if_true, List.head?_cons]

end

end Flow

end DiagramMarkup
