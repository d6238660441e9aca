import DiagramMarkup.Proofs.Activity.Effects
import DiagramMarkup.Proofs.Activity.WellNested
import DiagramMarkup.Proofs.Tables

/-! # The partitions of an activity

Partitions are opened and closed like brackets, and those that are open at the end are closed there.
A node is in the innermost partition that is open when it is added, which is the last one whose range
turns out to hold it.
-/

namespace DiagramMarkup.ActivityDiagram

/-- A partition holds the node at a place. As long as it is open it holds whatever is behind its
start. -/
def Holds (opened : List Nat) (partitions : List Partition) (j place : Nat) : Prop :=
  ∃ p, partitions[j]? = some p ∧ p.start ≤ place ∧ (j ∈ opened ∨ place < p.stop)

/-- The name of the last partition that holds a place, or none. -/
inductive Innermost (opened : List Nat) (partitions : List Partition) (place : Nat) :
    Option String → Prop where
  | outside (nowhere : ∀ j, ¬ Holds opened partitions j place) :
      Innermost opened partitions place none
  | within {j : Nat} {p : Partition} (here : partitions[j]? = some p)
      (holds : Holds opened partitions j place)
      (last : ∀ k, Holds opened partitions k place → k ≤ j) :
      Innermost opened partitions place (some p.name)

/-- How two partitions lie to each other, the first of which was opened first: it has ended before the
other one starts, or the other one lies in it. Where it is open yet, it will. -/
def Nests (opened : List Nat) (j k : Nat) (p q : Partition) : Prop :=
  if j ∈ opened then p.start ≤ q.start
  else p.stop ≤ q.start ∨ k ∉ opened ∧ p.start ≤ q.start ∧ q.stop ≤ p.stop

/-- Partitions that describe which of them every node is in, some of which are open. -/
structure Regions (assigned : List (Option String)) (partitions : List Partition)
    (opened : List Nat) : Prop where
  /-- What was opened last stands first. -/
  sorted : opened.Pairwise (· > ·)
  inside : ∀ j ∈ opened, j < partitions.length
  bounded : ∀ p ∈ partitions, p.start ≤ p.stop ∧ p.stop ≤ assigned.length
  nested : ∀ j k p q, partitions[j]? = some p → partitions[k]? = some q → j < k →
    Nests opened j k p q
  described : ∀ place name?, assigned[place]? = some name? →
    Innermost opened partitions place name?

variable {assigned : List (Option String)} {partitions others : List Partition}
  {opened still : List Nat} {place : Nat} {name? : Option String}

/-- Which partition a node is in does not change where the same partitions hold it and keep their
names. -/
theorem Innermost.congr (innermost : Innermost opened partitions place name?)
    (named : ∀ (j : Nat) (p : Partition), partitions[j]? = some p →
      ∃ q : Partition, others[j]? = some q ∧ q.name = p.name)
    (same : ∀ j, Holds still others j place ↔ Holds opened partitions j place) :
    Innermost still others place name? := by
  cases innermost with
  | outside nowhere => exact .outside fun j holds => nowhere j ((same j).mp holds)
  | @within j p here holds last =>
      obtain ⟨q, there, name⟩ := named j p here
      rw [← name]
      exact .within there ((same j).mpr holds) fun k holds => last k ((same k).mp holds)

theorem holds_enter_iff {stop j : Nat} {name : String} {parent : Option String}
    (before : place < stop) :
    Holds (partitions.length :: opened) (partitions ++ [⟨name, stop, stop, parent⟩]) j place ↔
      Holds opened partitions j place := by
  constructor
  · rintro ⟨p, found, start, holds⟩
    rcases getElem?_append_singleton_iff.mp found with ⟨inside, old⟩ | ⟨rfl, rfl⟩
    · rw [List.mem_cons, or_iff_right (Nat.ne_of_lt inside)] at holds
      exact ⟨p, old, start, holds⟩
    · exact absurd start (Nat.not_le_of_lt before)
  · rintro ⟨p, old, start, holds⟩
    have inside := (List.getElem?_eq_some_iff.mp old).1
    refine ⟨p, List.getElem?_append_left inside ▸ old, start, ?_⟩
    exact holds.imp_left (List.mem_cons_of_mem _)

section

variable {top stop j k : Nat} {below : List Nat} {p q : Partition}

theorem getElem?_endAt :
    (partitions.modify top fun p => { p with stop })[j]? = some q ↔
      ∃ p, partitions[j]? = some p ∧ q = if j = top then { p with stop } else p := by
  rw [List.getElem?_modify, Option.map_eq_map, Option.map_eq_some_iff]
  simp only [eq_comm]

theorem holds_endAt_iff (before : place < stop) :
    Holds below (partitions.modify top fun p => { p with stop }) j place ↔
      Holds (top :: below) partitions j place := by
  constructor
  · rintro ⟨q, found, start, holds⟩
    obtain ⟨p, old, rfl⟩ := getElem?_endAt.mp found
    by_cases ended : j = top
    · rw [if_pos ended] at start
      exact ⟨p, old, start, .inl (ended ▸ List.mem_cons_self)⟩
    · rw [if_neg ended] at start holds
      exact ⟨p, old, start, holds.imp_left (List.mem_cons_of_mem top)⟩
  · rintro ⟨p, old, start, holds⟩
    refine ⟨_, getElem?_endAt.mpr ⟨p, old, rfl⟩, ?_⟩
    by_cases ended : j = top
    · rw [if_pos ended]
      exact ⟨start, .inr before⟩
    · rw [if_neg ended]
      rw [List.mem_cons, or_iff_right ended] at holds
      exact ⟨start, holds⟩

theorem Nests.endAt (nests : Nests (top :: below) j k p q)
    (sorted : (top :: below).Pairwise (· > ·)) (before : j < k) (bounded : q.stop ≤ stop) :
    Nests below j k (if j = top then { p with stop } else p)
      (if k = top then { q with stop } else q) := by
  have lower (i : Nat) (member : i ∈ below) : i < top := List.rel_of_pairwise_cons sorted member
  unfold Nests at nests ⊢
  by_cases first : j = top
  · -- nothing that was opened behind the one that is ended is open
    subst first
    have closed : j ∉ below := fun member => Nat.lt_irrefl j (lower j member)
    have behind : k ∉ below := fun member => Nat.lt_asymm before (lower k member)
    rw [if_pos List.mem_cons_self] at nests
    rw [if_neg closed, if_pos rfl, if_neg (Nat.ne_of_gt before)]
    exact .inr ⟨behind, nests, bounded⟩
  · rw [if_neg first]
    by_cases second : k = top
    · subst second
      rw [if_pos rfl]
      by_cases outer : j ∈ below
      · rw [if_pos (List.mem_cons_of_mem k outer)] at nests
        rw [if_pos outer]
        exact nests
      · -- what had ended while this one was open had done so before it started
        rw [if_neg (List.not_mem_cons_of_ne_of_not_mem first outer)] at nests
        rw [if_neg outer]
        exact nests.imp_right fun lies => absurd List.mem_cons_self lies.1
    · rw [if_neg second]
      simpa only [List.mem_cons, first, second, false_or] using nests

end

namespace Regions

theorem empty : Regions [] [] [] where
  sorted := .nil
  inside _ member := absurd member List.not_mem_nil
  bounded _ member := absurd member List.not_mem_nil
  nested _ _ _ _ here := by simp only [List.getElem?_nil, reduceCtorEq] at here
  described _ _ here := by simp only [List.getElem?_nil, reduceCtorEq] at here

theorem holds_next (regions : Regions assigned partitions opened) (j : Nat) :
    Holds opened partitions j assigned.length ↔ j ∈ opened := by
  constructor
  · rintro ⟨p, here, _, isOpen | before⟩
    · exact isOpen
    · have bounded := regions.bounded p (List.mem_of_getElem? here)
      omega
  · intro isOpen
    have here := List.getElem?_eq_getElem (regions.inside j isOpen)
    have bounded := regions.bounded _ (List.mem_of_getElem? here)
    exact ⟨_, here, by omega, .inl isOpen⟩

theorem innermost_next (regions : Regions assigned partitions opened) :
    Innermost opened partitions assigned.length
      ((opened.head?.bind fun place => partitions[place]?).map Partition.name) := by
  cases opened with
  | nil =>
      apply Innermost.outside
      intro j holds
      exact List.not_mem_nil ((regions.holds_next j).mp holds)
  | cons top below =>
      have here := List.getElem?_eq_getElem (regions.inside top List.mem_cons_self)
      rw [List.head?_cons, Option.bind_some, here]
      refine .within here ((regions.holds_next top).mpr List.mem_cons_self) ?_
      intro k holds
      rcases List.mem_cons.mp ((regions.holds_next k).mp holds) with rfl | member
      · exact Nat.le_refl _
      · exact Nat.le_of_lt (List.rel_of_pairwise_cons regions.sorted member)

theorem push (regions : Regions assigned partitions opened)
    (innermost : Innermost opened partitions assigned.length name?) :
    Regions (assigned ++ [name?]) partitions opened where
  sorted := regions.sorted
  inside := regions.inside
  bounded p member := by
    have bounded := regions.bounded p member
    rw [List.length_append, List.length_singleton]
    omega
  nested := regions.nested
  described place other here := by
    rcases getElem?_append_singleton_iff.mp here with ⟨_, old⟩ | ⟨rfl, rfl⟩
    · exact regions.described place other old
    · exact innermost

theorem enter (regions : Regions assigned partitions opened) (name : String)
    (parent : Option String) :
    Regions assigned (partitions ++ [⟨name, assigned.length, assigned.length, parent⟩])
      (partitions.length :: opened) where
  sorted := List.pairwise_cons.mpr ⟨regions.inside, regions.sorted⟩
  inside j member := by
    rw [List.length_append, List.length_singleton]
    rcases List.mem_cons.mp member with rfl | member
    · omega
    · have inside := regions.inside j member
      omega
  bounded := by
    rw [List.forall_mem_append, List.forall_mem_singleton]
    exact ⟨regions.bounded, Nat.le_refl _, Nat.le_refl _⟩
  nested j k p q here there before := by
    rcases getElem?_append_singleton_iff.mp there with ⟨inside, there⟩ | ⟨rfl, rfl⟩
    · have beforeNew : j ≠ partitions.length := by omega
      rw [List.getElem?_append_left (by omega)] at here
      simpa only [Nests, List.mem_cons, beforeNew, Nat.ne_of_lt inside, false_or] using
        regions.nested j k p q here there before
    · rw [List.getElem?_append_left before] at here
      have bounded := regions.bounded p (List.mem_of_getElem? here)
      unfold Nests
      split
      · exact Nat.le_trans bounded.1 bounded.2
      · exact .inl bounded.2
  described place other here := by
    have before : place < assigned.length := (List.getElem?_eq_some_iff.mp here).1
    refine (regions.described place other here).congr ?_ fun j => holds_enter_iff before
    intro j p old
    exact ⟨p, List.getElem?_append_left (List.getElem?_eq_some_iff.mp old).1 ▸ old, rfl⟩

theorem close {top : Nat} {below : List Nat}
    (regions : Regions assigned partitions (top :: below)) :
    Regions assigned (partitions.modify top fun p => { p with stop := assigned.length }) below where
  sorted := regions.sorted.of_cons
  inside j member := by
    rw [List.length_modify]
    exact regions.inside j (List.mem_cons_of_mem top member)
  bounded q member := by
    obtain ⟨j, found⟩ := List.mem_iff_getElem?.mp member
    obtain ⟨p, here, rfl⟩ := getElem?_endAt.mp found
    have bounded := regions.bounded p (List.mem_of_getElem? here)
    split
    · exact ⟨Nat.le_trans bounded.1 bounded.2, Nat.le_refl _⟩
    · exact bounded
  nested j k p' q' found foundOther before := by
    obtain ⟨p, here, rfl⟩ := getElem?_endAt.mp found
    obtain ⟨q, there, rfl⟩ := getElem?_endAt.mp foundOther
    have bounded := regions.bounded q (List.mem_of_getElem? there)
    exact (regions.nested j k p q here there before).endAt regions.sorted before bounded.2
  described place other here := by
    have before : place < assigned.length := (List.getElem?_eq_some_iff.mp here).1
    refine (regions.described place other here).congr ?_ fun j => holds_endAt_iff before
    intro j p old
    refine ⟨_, getElem?_endAt.mpr ⟨p, old, rfl⟩, ?_⟩
    split <;> rfl

theorem endAll (regions : Regions assigned partitions opened) :
    Regions assigned (Draft.endAll assigned.length opened partitions) [] := by
  induction opened generalizing partitions with
  | nil => exact regions
  | cons top below ih => exact ih regions.close

theorem pairwise (regions : Regions assigned partitions []) :
    partitions.Pairwise fun p q => p.stop ≤ q.start ∨ p.start ≤ q.start ∧ q.stop ≤ p.stop := by
  rw [List.pairwise_iff_getElem]
  intro j k here there before
  have nests := regions.nested j k _ _ (List.getElem?_eq_getElem here)
    (List.getElem?_eq_getElem there) before
  rw [Nests, if_neg List.not_mem_nil] at nests
  exact nests.imp_right And.right

end Regions

theorem getLast?_filter_of_last {α : Type} {test : α → Bool} {items : List α} {j : Nat} {a : α}
    (here : items[j]? = some a) (fits : test a = true)
    (last : ∀ k b, items[k]? = some b → test b = true → k ≤ j) :
    (items.filter test).getLast? = some a := by
  induction items generalizing j with
  | nil => simp only [List.getElem?_nil, reduceCtorEq] at here
  | cons b items ih =>
      cases j with
      | zero =>
          have none : items.filter test = [] := by
            rw [List.filter_eq_nil_iff]
            intro c member fitting
            obtain ⟨k, found⟩ := List.mem_iff_getElem?.mp member
            exact Nat.not_succ_le_zero k (last (k + 1) c found fitting)
          cases here
          rw [List.filter_cons_of_pos fits, none, List.getLast?_singleton]
      | succ j =>
          have found := ih here fun k c there fitting =>
            Nat.le_of_succ_le_succ (last (k + 1) c there fitting)
          cases first : test b with
          | false => rw [List.filter_cons_of_neg (Bool.eq_false_iff.mp first), found]
          | true => rw [List.filter_cons_of_pos first, List.getLast?_cons, found, Option.getD_some]

/-- The last partition whose range holds a place, once all have ended. -/
theorem Innermost.eq_getLast? (innermost : Innermost [] partitions place name?) :
    name? = ((partitions.filter fun p => p.start ≤ place ∧ place < p.stop).getLast?).map
      Partition.name := by
  have holds_iff (j : Nat) (p : Partition) (here : partitions[j]? = some p) :
      Holds [] partitions j place ↔ decide (p.start ≤ place ∧ place < p.stop) = true := by
    rw [decide_eq_true_iff]
    constructor
    · rintro ⟨q, found, start, member | stop⟩
      · exact absurd member List.not_mem_nil
      · cases here.symm.trans found
        exact ⟨start, stop⟩
    · rintro ⟨start, stop⟩
      exact ⟨p, here, start, .inr stop⟩
  cases innermost with
  | outside nowhere =>
      have none : (partitions.filter fun p => p.start ≤ place ∧ place < p.stop) = [] := by
        rw [List.filter_eq_nil_iff]
        intro p member fits
        obtain ⟨j, here⟩ := List.mem_iff_getElem?.mp member
        exact nowhere j ((holds_iff j p here).mpr fits)
      rw [none, List.getLast?_nil, Option.map_none]
  | @within j p here holds last =>
      rw [getLast?_filter_of_last here ((holds_iff j p here).mp holds) fun k q there fits =>
        last k ((holds_iff k q there).mpr fits), Option.map_some]

/-! ## The partitions of a draft -/

/-- The partitions of a draft describe its nodes. -/
def Draft.HasRegions (draft : Draft) : Prop :=
  Regions (draft.nodes.map ActivityNode.partition) draft.partitions draft.openPartitions

namespace Draft.HasRegions

variable {draft next : Draft} {statement : Statement}

theorem push (has : draft.HasRegions) (node : ActivityNode) : (draft.push node).HasRegions := by
  have added : (draft.push node).nodes.map ActivityNode.partition =
      draft.nodes.map ActivityNode.partition ++ [draft.partition?] := List.map_append
  rw [HasRegions, added]
  exact Regions.push has has.innermost_next

theorem effect (has : draft.HasRegions) (effect : Effect draft statement next) :
    next.HasRegions := by
  cases effect with
  | adds _ node frames => exact has.push node
  | stays | switchesLane | unbalanced => exact has
  | opensPartition name =>
      have entered := has.enter name draft.partition?
      rw [List.length_map] at entered
      exact entered
  | closesPartition opened =>
      rw [HasRegions, opened] at has
      have closed := has.close
      rw [List.length_map] at closed
      exact closed
  | attachesNote words text =>
      rw [HasRegions, Nesting.map_attachNote _ fun _ _ => rfl]
      exact has

end Draft.HasRegions

/-- The partitions of an activity describe its nodes, and all have ended. -/
theorem regions_draftOfLines (lines : List Line) :
    Regions ((draftOfLines lines).1.nodes.map ActivityNode.partition)
      (draftOfLines lines).1.partitions [] := by
  have closed := closeFrames_readAll (P := Draft.HasRegions)
    (fun _ _ _ effect has => has.effect effect) Regions.empty lines
  have ended := closed.endAll
  rw [List.length_map] at ended
  rw [draftOfLines_fst]
  exact ended

end DiagramMarkup.ActivityDiagram
