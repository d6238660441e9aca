import DiagramMarkup.Proofs.Activity.Placement

/-! # Partitions that are opened inside of others

The lines of an activity tell which partitions are open where another one is opened. Each of these
still holds all nodes of the new one: it cannot be closed before that one is.
-/

namespace DiagramMarkup.ActivityDiagram

/-- For every partition that some statements open, the numbers of those that are open then, the
innermost first. The numbers of the open ones and the next number are given. -/
def enclosing : List Nat → Nat → List Statement → List (List Nat)
  | _, _, [] => []
  | opened, next, .opensPartition _ :: rest => opened :: enclosing (next :: opened) (next + 1) rest
  | opened, next, .closesPartition :: rest => enclosing opened.tail next rest
  | opened, next, _ :: rest => enclosing opened next rest

/-- For every partition of an activity, the numbers of those that are open where it is opened. -/
def openAround (lines : List Line) : List (List Nat) :=
  enclosing [] 0 ((constructs lines).map Construct.statement)

theorem enclosing_control {statement : Statement} (control : statement.isContext = false)
    (opened : List Nat) (next : Nat) (rest : List Statement) :
    enclosing opened next (statement :: rest) = enclosing opened next rest := by
  cases statement with
  | switchesLane | opensPartition | closesPartition | note => cases control
  | alone | opens | separates | closes | action | unknown => rfl

/-- Some partitions are told which others were open around them: each of these is open yet, or they
have both ended, the inner one first. -/
structure Encloses (partitions : List Partition) (opened : List Nat) (around : List (List Nat)) :
    Prop where
  length : around.length = partitions.length
  within : ∀ (j k : Nat) (outer : List Nat), around[k]? = some outer → j ∈ outer →
    j < k ∧ (j ∈ opened ∨ k ∉ opened ∧ ∀ p q, partitions[j]? = some p → partitions[k]? = some q →
      q.stop ≤ p.stop)

namespace Encloses

variable {assigned : List (Option String)} {partitions : List Partition} {opened : List Nat}
  {around : List (List Nat)}

theorem empty : Encloses [] [] [] where
  length := rfl
  within _ _ _ here := by simp only [List.getElem?_nil, reduceCtorEq] at here

theorem enter (encloses : Encloses partitions opened around)
    (regions : Regions assigned partitions opened) (new : Partition) :
    Encloses (partitions ++ [new]) (partitions.length :: opened) (around ++ [opened]) where
  length := by simp only [List.length_append, encloses.length, List.length_singleton]
  within j k outer here member := by
    rcases getElem?_append_singleton_iff.mp here with ⟨inside, old⟩ | ⟨rfl, rfl⟩
    · obtain ⟨before, lies⟩ := encloses.within j k outer old member
      rw [encloses.length] at inside
      refine ⟨before, lies.imp (List.mem_cons_of_mem _) fun ⟨ended, stops⟩ => ⟨?_, ?_⟩⟩
      · exact List.not_mem_cons_of_ne_of_not_mem (Nat.ne_of_lt inside) ended
      · intro p q there here
        rw [List.getElem?_append_left (before.trans inside)] at there
        rw [List.getElem?_append_left inside] at here
        exact stops p q there here
    · rw [encloses.length]
      exact ⟨regions.inside j member, .inl (List.mem_cons_of_mem _ member)⟩

theorem close {top : Nat} {below : List Nat} (encloses : Encloses partitions (top :: below) around)
    (regions : Regions assigned partitions (top :: below)) :
    Encloses (partitions.modify top fun p => { p with stop := assigned.length }) below around where
  length := encloses.length.trans (List.length_modify _ _ _).symm
  within j k outer here member := by
    obtain ⟨before, lies⟩ := encloses.within j k outer here member
    refine ⟨before, ?_⟩
    by_cases outerOpen : j ∈ below
    · exact .inl outerOpen
    · right
      have lower (i : Nat) (known : i ∈ below) : i < top :=
        List.rel_of_pairwise_cons regions.sorted known
      -- the outer one is the innermost one that is open, or both had ended before
      have apart : k ∉ top :: below := by
        rcases lies with isOpen | ⟨ended, _⟩
        · rcases List.mem_cons.mp isOpen with rfl | known
          · intro inner
            rcases List.mem_cons.mp inner with rfl | lowest
            · exact Nat.lt_irrefl _ before
            · exact Nat.lt_asymm before (lower k lowest)
          · exact absurd known outerOpen
        · exact ended
      refine ⟨fun known => apart (List.mem_cons_of_mem top known), fun p' q' found foundInner => ?_⟩
      obtain ⟨p, there, rfl⟩ := getElem?_endAt.mp found
      obtain ⟨q, inner, rfl⟩ := getElem?_endAt.mp foundInner
      have kept : k ≠ top := fun same => apart (same ▸ List.mem_cons_self)
      rw [if_neg kept]
      split
      · exact (regions.bounded q (List.mem_of_getElem? inner)).2
      · next other =>
        rcases lies with isOpen | ⟨_, stops⟩
        · exact absurd isOpen (List.not_mem_cons_of_ne_of_not_mem other outerOpen)
        · exact stops p q there inner

theorem endAll (encloses : Encloses partitions opened around)
    (regions : Regions assigned partitions opened) :
    Encloses (Draft.endAll assigned.length opened partitions) [] around := by
  induction opened generalizing partitions with
  | nil => exact encloses
  | cons top below ih => exact ih (encloses.close regions) regions.close

end Encloses

/-- The partitions of a draft are told which others were open around them. -/
structure Draft.HasEnclosing (draft : Draft) (around : List (List Nat)) : Prop where
  regions : draft.HasRegions
  encloses : Encloses draft.partitions draft.openPartitions around

namespace Draft.HasEnclosing

variable {draft next : Draft} {around : List (List Nat)} {statement : Statement}

theorem effect (has : draft.HasEnclosing around) (effect : Effect draft statement next) :
    ∃ around', next.HasEnclosing around' ∧ ∀ rest,
      around' ++ enclosing next.openPartitions next.partitions.length rest =
        around ++ enclosing draft.openPartitions draft.partitions.length (statement :: rest) := by
  have regions := has.regions.effect effect
  cases effect with
  | adds control =>
      exact ⟨around, ⟨regions, has.encloses⟩, fun rest => by rw [enclosing_control control]; rfl⟩
  | stays control =>
      exact ⟨around, ⟨regions, has.encloses⟩, fun rest => by rw [enclosing_control control]⟩
  | switchesLane | attachesNote => exact ⟨around, ⟨regions, has.encloses⟩, fun _ => rfl⟩
  | opensPartition name =>
      refine ⟨_, ⟨regions, has.encloses.enter has.regions _⟩, fun rest => ?_⟩
      rw [List.append_assoc, List.singleton_append]
      simp only [openPartition, List.length_append, List.length_singleton, enclosing]
  | @closesPartition place places opened =>
      have encloses := has.encloses
      have before := has.regions
      rw [HasRegions, opened] at before
      rw [opened] at encloses
      have closed := encloses.close before
      rw [List.length_map] at closed
      refine ⟨around, ⟨regions, closed⟩, fun rest => ?_⟩
      simp only [endPartition, List.length_modify, enclosing, opened, List.tail_cons]
  | unbalanced closed =>
      refine ⟨around, ⟨regions, has.encloses⟩, fun rest => ?_⟩
      simp only [enclosing, closed, List.tail_nil]

theorem readAll (has : draft.HasEnclosing around) (lines : List Line) :
    (readAll turn draft lines).1.HasEnclosing (around ++ enclosing draft.openPartitions
      draft.partitions.length ((constructs lines).map Construct.statement)) := by
  induction lines using constructs_induction generalizing draft around with
  | nil =>
      simpa only [DiagramMarkup.readAll, constructs, List.map_nil, enclosing, List.append_nil] using has
  | cons line rest ih =>
      obtain ⟨around', has', told⟩ := has.effect (.of_turn draft line rest)
      rw [readAll_cons_fst, left_eq, constructs_cons, List.map_cons, ← told]
      exact ih has'

end Draft.HasEnclosing

/-- Every partition of an activity is told which others were open around it. -/
theorem encloses_draftOfLines (lines : List Line) :
    Encloses (draftOfLines lines).1.partitions [] (openAround lines) := by
  have start : Draft.HasEnclosing {} [] := ⟨Regions.empty, .empty⟩
  have read := start.readAll lines
  have regions : (readAll turn {} lines).1.closeFrames.HasRegions :=
    Draft.closeFrames_invariant (fun _ _ _ effect has => has.effect effect) read.regions
  have encloses := read.encloses
  rw [← Draft.closeFrames_partitions, ← Draft.closeFrames_openPartitions] at encloses
  have ended := encloses.endAll regions
  rw [List.length_map] at ended
  rw [draftOfLines_fst]
  exact ended

/-- A partition lies in each of those that are open where it is opened. -/
theorem within_of_enclosing (lines : List Line) {j k : Nat} {outer : List Nat} {p q : Partition}
    (around : (openAround lines)[k]? = some outer) (isOpen : j ∈ outer)
    (there : (draftOfLines lines).1.partitions[j]? = some p)
    (inside : (draftOfLines lines).1.partitions[k]? = some q) :
    p.start ≤ q.start ∧ q.stop ≤ p.stop := by
  have regions := regions_draftOfLines lines
  obtain ⟨before, isOpen | ⟨_, stops⟩⟩ := (encloses_draftOfLines lines).within j k outer around isOpen
  · exact absurd isOpen List.not_mem_nil
  · have nests := regions.nested j k p q there inside before
    have bounded := regions.bounded p (List.mem_of_getElem? there)
    rw [Nests, if_neg List.not_mem_nil] at nests
    refine ⟨?_, stops p q there inside⟩
    rcases nests with apart | ⟨_, start, _⟩
    · exact Nat.le_trans bounded.1 apart
    · exact start

end DiagramMarkup.ActivityDiagram
