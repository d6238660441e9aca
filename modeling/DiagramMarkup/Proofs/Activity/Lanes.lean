import DiagramMarkup.Proofs.Activity.Effects
import DiagramMarkup.Proofs.Activity.WellNested
import DiagramMarkup.Proofs.Tables
import Mathlib.Data.List.Nodup
import Mathlib.Order.Bounds.Basic

/-! # The lanes of an activity

A lane is entered when a line switches to it for the first time, at the place of the next node. It
reaches from there to its last node, and no node of it comes before.
-/

namespace DiagramMarkup.ActivityDiagram

/-- A change of the first item that satisfies a test changes all of those that do, where there is at
most one. -/
theorem changeFirst_eq_map {α : Type} {test : α → Bool} {f : α → α} {items : List α}
    (once : items.Pairwise fun a b => test a = true → test b = false) :
    changeFirst test f items = items.map fun a => if test a then f a else a := by
  induction items with
  | nil => rfl
  | cons a items ih =>
      obtain ⟨apart, once⟩ := List.pairwise_cons.mp once
      rw [changeFirst, List.map_cons]
      cases fits : test a with
      | false => simp only [Bool.false_eq_true, if_false, ih once]
      | true =>
          have others : items.map (fun b => if test b then f b else b) = items.map id := by
            apply List.map_congr_left
            intro b member
            rw [apart b member fits]
            rfl
          simp only [if_true, others, List.map_id]

/-- The place of a node in the lane of a name, where the lanes of all nodes are given. -/
def InLane (assigned : List (Option String)) (name : String) (place : Nat) : Prop :=
  assigned[place]? = some (some name)

/-- The last place of a lane is that of its last node; a lane without nodes ends where it starts. -/
def EndsLane (assigned : List (Option String)) (lane : Swimlane) : Prop :=
  IsGreatest {place | InLane assigned lane.name place} lane.last ∨
    (∀ place, ¬ InLane assigned lane.name place) ∧ lane.last = lane.first

/-- Lanes that describe which lane every node is in. -/
structure Lanes (assigned : List (Option String)) (lanes : List Swimlane) : Prop where
  distinct : (lanes.map Swimlane.name).Nodup
  known : ∀ name, some name ∈ assigned → name ∈ lanes.map Swimlane.name
  /-- No node of a lane comes before its first place. -/
  begun : ∀ lane ∈ lanes, ∀ place, InLane assigned lane.name place → lane.first ≤ place
  entered : ∀ lane ∈ lanes, lane.first ≤ assigned.length
  ends : ∀ lane ∈ lanes, EndsLane assigned lane

theorem inLane_append_singleton {assigned : List (Option String)} {current : Option String}
    {name : String} {place : Nat} :
    InLane (assigned ++ [current]) name place ↔
      InLane assigned name place ∨ place = assigned.length ∧ current = some name := by
  unfold InLane
  rw [getElem?_append_singleton_iff]
  constructor
  · rintro (⟨_, old⟩ | ⟨rfl, new⟩)
    · exact .inl old
    · exact .inr ⟨rfl, new.symm⟩
  · rintro (old | ⟨rfl, new⟩)
    · exact .inl ⟨(List.getElem?_eq_some_iff.mp old).1, old⟩
    · exact .inr ⟨rfl, new.symm⟩

namespace Lanes

variable {assigned : List (Option String)} {lanes : List Swimlane} {current : Option String}

theorem empty : Lanes [] [] where
  distinct := .nil
  known _ member := absurd member List.not_mem_nil
  begun _ member := absurd member List.not_mem_nil
  entered _ member := absurd member List.not_mem_nil
  ends _ member := absurd member List.not_mem_nil

/-- A lane once a node is added in the current lane. -/
def extend (current : Option String) (last : Nat) (lane : Swimlane) : Swimlane :=
  if some lane.name = current then { lane with last } else lane

@[simp] theorem extend_name (current : Option String) (last : Nat) (lane : Swimlane) :
    (extend current last lane).name = lane.name := by
  unfold extend
  split <;> rfl

@[simp] theorem extend_first (current : Option String) (last : Nat) (lane : Swimlane) :
    (extend current last lane).first = lane.first := by
  unfold extend
  split <;> rfl

theorem map_name_extend (current : Option String) (last : Nat) (lanes : List Swimlane) :
    (lanes.map (extend current last)).map Swimlane.name = lanes.map Swimlane.name := by
  rw [List.map_map]
  exact List.map_congr_left fun lane _ => extend_name current last lane

theorem ends_extend {lane : Swimlane} (ends : EndsLane assigned lane) :
    EndsLane (assigned ++ [current]) (extend current assigned.length lane) := by
  unfold EndsLane
  rw [extend_name, extend_first]
  by_cases here : some lane.name = current
  · left
    rw [extend, if_pos here]
    refine ⟨inLane_append_singleton.mpr (.inr ⟨rfl, here.symm⟩), ?_⟩
    intro place inside
    rcases inLane_append_singleton.mp inside with old | ⟨rfl, _⟩
    · exact Nat.le_of_lt (List.getElem?_eq_some_iff.mp old).1
    · exact Nat.le_refl _
  · rw [extend, if_neg here]
    have same (place : Nat) :
        InLane (assigned ++ [current]) lane.name place ↔ InLane assigned lane.name place := by
      rw [inLane_append_singleton]
      exact or_iff_left fun new => here new.2.symm
    simpa only [EndsLane, same] using ends

theorem push (described : Lanes assigned lanes)
    (known : ∀ name, current = some name → name ∈ lanes.map Swimlane.name) :
    Lanes (assigned ++ [current]) (lanes.map (extend current assigned.length)) where
  distinct := by rw [map_name_extend]; exact described.distinct
  known name member := by
    rw [map_name_extend]
    rcases List.mem_append.mp member with old | new
    · exact described.known name old
    · exact known name (List.mem_singleton.mp new).symm
  begun lane member place inside := by
    obtain ⟨old, oldMember, rfl⟩ := List.mem_map.mp member
    rw [extend_name] at inside
    rw [extend_first]
    rcases inLane_append_singleton.mp inside with earlier | ⟨rfl, _⟩
    · exact described.begun old oldMember place earlier
    · exact described.entered old oldMember
  entered lane member := by
    obtain ⟨old, oldMember, rfl⟩ := List.mem_map.mp member
    have entered := described.entered old oldMember
    simp only [extend_first, List.length_append, List.length_singleton]
    omega
  ends lane member := by
    obtain ⟨old, oldMember, rfl⟩ := List.mem_map.mp member
    exact ends_extend (described.ends old oldMember)

theorem enter (described : Lanes assigned lanes) {name : String}
    (new : name ∉ lanes.map Swimlane.name) :
    Lanes assigned (lanes ++ [⟨name, assigned.length, assigned.length⟩]) := by
  have nowhere (place : Nat) : ¬ InLane assigned name place := fun inside =>
    new (described.known name (List.mem_of_getElem? inside))
  refine ⟨?distinct, ?known, ?begun, ?entered, ?ends⟩
  case distinct =>
    rw [List.map_append, List.nodup_append']
    refine ⟨described.distinct, List.nodup_singleton name, ?_⟩
    exact List.disjoint_singleton.mpr new
  case known =>
    intro other member
    rw [List.map_append]
    exact List.mem_append_left _ (described.known other member)
  all_goals
    rw [List.forall_mem_append, List.forall_mem_singleton]
  case begun => exact ⟨described.begun, fun place inside => absurd inside (nowhere place)⟩
  case entered => exact ⟨described.entered, Nat.le_refl _⟩
  case ends => exact ⟨described.ends, .inr ⟨nowhere, rfl⟩⟩

/-- Every node in a lane stands within the one lane of its name. -/
theorem exists_lane (described : Lanes assigned lanes) {name : String} {place : Nat}
    (inside : InLane assigned name place) :
    ∃ lane ∈ lanes, lane.name = name ∧ (∀ other ∈ lanes, other.name = name → other = lane) ∧
      lane.first ≤ place ∧ place ≤ lane.last := by
  obtain ⟨lane, member, rfl⟩ := List.mem_map.mp (described.known name (List.mem_of_getElem? inside))
  refine ⟨lane, member, rfl, ?_, described.begun lane member place inside, ?_⟩
  · intro other otherMember same
    exact List.inj_on_of_nodup_map described.distinct otherMember member same
  · rcases described.ends lane member with greatest | ⟨nowhere, _⟩
    · exact greatest.2 inside
    · exact absurd inside (nowhere place)

end Lanes

/-! ## The lanes of a draft -/

/-- The lanes of a draft describe its nodes, and the current lane is one of them. -/
structure Draft.HasLanes (draft : Draft) : Prop where
  lanes : Lanes (draft.nodes.map ActivityNode.lane) draft.swimlanes
  current : ∀ name, draft.lane = some name → name ∈ draft.swimlanes.map Swimlane.name

namespace Draft.HasLanes

variable {draft next : Draft} {statement : Statement}

theorem push (has : draft.HasLanes) (node : ActivityNode) : (draft.push node).HasLanes := by
  have once : draft.swimlanes.Pairwise fun a b =>
      decide (some a.name = draft.lane) = true → decide (some b.name = draft.lane) = false := by
    refine (List.pairwise_map.mp has.lanes.distinct).imp ?_
    intro a b apart here
    apply decide_eq_false
    intro there
    exact apart (Option.some.inj ((of_decide_eq_true here).trans there.symm))
  have lanes : (draft.push node).swimlanes =
      draft.swimlanes.map (Lanes.extend draft.lane (draft.nodes.map ActivityNode.lane).length) := by
    simp only [Draft.push, changeFirst_eq_map once, decide_eq_true_eq, List.length_map]
    rfl
  constructor
  · rw [lanes, show (draft.push node).nodes.map ActivityNode.lane =
      draft.nodes.map ActivityNode.lane ++ [draft.lane] from List.map_append]
    exact has.lanes.push has.current
  · rw [lanes, Lanes.map_name_extend]
    exact has.current

theorem switchLane (has : draft.HasLanes) (name : String) : (draft.switchLane name).HasLanes := by
  unfold Draft.switchLane
  cases known : draft.swimlanes.any fun lane => lane.name = name with
  | true =>
      obtain ⟨lane, member, same⟩ := List.any_eq_true.mp known
      refine ⟨has.lanes, ?_⟩
      rintro _ ⟨⟩
      exact List.mem_map.mpr ⟨lane, member, of_decide_eq_true same⟩
  | false =>
      have new : name ∉ draft.swimlanes.map Swimlane.name := by
        intro member
        obtain ⟨lane, laneMember, rfl⟩ := List.mem_map.mp member
        exact List.any_eq_false.mp known lane laneMember (decide_eq_true rfl)
      have entered := has.lanes.enter new
      rw [List.length_map] at entered
      refine ⟨entered, ?_⟩
      rintro _ ⟨⟩
      simp only [Bool.false_eq_true, if_false, List.map_append, List.mem_append, List.map_cons,
        List.map_nil, List.mem_singleton, or_true]

theorem effect (has : draft.HasLanes) (effect : Effect draft statement next) : next.HasLanes := by
  cases effect with
  | adds _ node frames => exact ⟨(has.push node).lanes, (has.push node).current⟩
  | stays | unbalanced => exact has
  | switchesLane name => exact has.switchLane name
  | opensPartition | closesPartition => exact ⟨has.lanes, has.current⟩
  | attachesNote words text =>
      have same := Nesting.map_attachNote ActivityNode.lane (fun _ _ => rfl) draft text
      exact ⟨same ▸ has.lanes, has.current⟩

theorem empty : Draft.HasLanes {} where
  lanes := .empty
  current _ none := by cases none

end Draft.HasLanes

/-- The lanes of an activity describe its nodes. -/
theorem lanes_draftOfLines (lines : List Line) :
    Lanes ((draftOfLines lines).1.nodes.map ActivityNode.lane) (draftOfLines lines).1.swimlanes := by
  have closed := closeFrames_readAll (P := Draft.HasLanes) (fun _ _ _ effect has => has.effect effect)
    .empty lines
  rw [draftOfLines_fst]
  exact closed.lanes

end DiagramMarkup.ActivityDiagram
