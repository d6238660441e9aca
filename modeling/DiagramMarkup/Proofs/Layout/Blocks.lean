import DiagramMarkup.Proofs.Layout.Frames
import DiagramMarkup.Proofs.Layout.Rows
import Mathlib.Data.List.Nodup

/-! # Blocks of a grid

Where an element starts a row, it and all behind it stand below what comes before. So the elements of a
boundary have rows of the grid for themselves: the first of them starts a row, and so does the first
element behind them.
-/

namespace DiagramMarkup

open Scalar

/-! ## Elements that start a row -/

namespace Grid

variable {settings : Settings Rat} {items upper lower : List (GridItem Rat)}
  {rows : List (List (GridItem Rat × Box Rat))}

/-- The first one of some elements, if there is one, starts a row. -/
def Starts (items : List (GridItem Rat)) : Prop :=
  ∀ item ∈ items.head?, item.startsRow = true

theorem Starts.append (first : Starts upper) (second : Starts lower) : Starts (upper ++ lower) := by
  cases upper with
  | nil => exact second
  | cons item upper => exact first

theorem starts_flatMap {ι : Type} {block : ι → List (GridItem Rat)}
    (starts : ∀ i, Starts (block i)) (indices : List ι) : Starts (indices.flatMap block) := by
  induction indices with
  | nil => exact fun _ none => nomatch none
  | cons i indices ih => exact (starts i).append ih

theorem IsGrid.tail {row : List (GridItem Rat × Box Rat)} (isGrid : IsGrid settings (row :: rows)) :
    IsGrid settings rows where
  each := fun other member => isGrid.each other (List.mem_cons_of_mem row member)
  spaced := isGrid.spaced.of_cons
  full := isGrid.full.tail

/-- Where an element starts a row, it and all behind it stand below what comes before. -/
theorem IsGrid.below_of_startsRow {before behind : List (GridItem Rat × Box Rat)}
    {first : GridItem Rat × Box Rat} (isGrid : IsGrid settings rows)
    (split : rows.flatten = before ++ first :: behind) (starts : first.1.startsRow = true) :
    ∀ p ∈ before, ∀ q ∈ first :: behind, p.2.bottom + settings.verticalGap ≤ q.2.top := by
  induction rows generalizing before with
  | nil => exact absurd split.symm (List.append_ne_nil_of_right_ne_nil _ (List.cons_ne_nil _ _))
  | cons row rows ih =>
      have below : ∀ p ∈ row, ∀ q ∈ rows.flatten, p.2.bottom + settings.verticalGap ≤ q.2.top := by
        intro p here q there
        obtain ⟨other, member, inside⟩ := List.mem_flatten.mp there
        exact List.rel_of_pairwise_cons isGrid.spaced member p here q inside
      rw [List.flatten_cons] at split
      rcases List.append_eq_append_iff.mp split with ⟨rest, rfl, lower⟩ | ⟨rest, rfl, lower⟩
      · intro p member q there
        rcases List.mem_append.mp member with here | later
        · exact below p here q (lower ▸ List.mem_append_right rest there)
        · exact ih isGrid.tail lower p later q there
      · cases rest with
        | nil =>
            rw [List.append_nil, ← List.nil_append rows.flatten, ← lower] at below
            exact below
        | cons element rest =>
            -- The element would stand in the middle of a row, unless nothing comes before it.
            obtain ⟨rfl, _⟩ := List.cons.inj lower
            cases before with
            | nil => exact fun _ member => absurd member List.not_mem_nil
            | cons p before =>
                have unbroken := (isGrid.each _ List.mem_cons_self).unbroken first
                  (List.mem_append_right before List.mem_cons_self)
                cases starts.symm.trans unbroken

theorem get?_boxes (distinct : (items.map GridItem.name).Nodup)
    (placed : boxesFrom settings (largest (items.map fun item => item.size.width))
      ⟨0, settings.margin, 0⟩ items = rows.flatten.map fun p => (p.1.name, p.2))
    {p : GridItem Rat × Box Rat} (member : p ∈ rows.flatten) :
    (boxes settings items).get? p.1.name = some p.2 := by
  apply Table.get?_of_mem
  rw [boxes, placed, Table.entries_ofList]
  · exact List.mem_map_of_mem member
  · rw [← placed, map_fst_boxesFrom]
    exact distinct

theorem above_of_starts (distinct : ((upper ++ lower).map GridItem.name).Nodup)
    (across : 0 ≤ settings.horizontalGap) (down : 0 ≤ settings.verticalGap) (starts : Starts lower)
    {a b : String} (there : a ∈ upper.map GridItem.name) (here : b ∈ lower.map GridItem.name) :
    Above (boxes settings (upper ++ lower)) settings.verticalGap a b := by
  obtain ⟨rows, isGrid, same, placed⟩ := exists_isGrid settings (upper ++ lower) across down
  have found := fun p => get?_boxes (p := p) distinct placed
  obtain ⟨before, behind, split, rfl, rfl⟩ := List.map_eq_append_iff.mp same
  rw [List.map_map] at there here
  obtain ⟨p, member, rfl⟩ := List.mem_map.mp there
  obtain ⟨q, other, rfl⟩ := List.mem_map.mp here
  cases behind with
  | nil => exact absurd other List.not_mem_nil
  | cons first behind =>
      have below := isGrid.below_of_startsRow split (starts first.1 rfl) p member q other
      intro box box' atP atQ
      have foundP := found p (split ▸ List.mem_append_left _ member)
      have foundQ := found q (split ▸ List.mem_append_right before other)
      obtain rfl := Option.some.inj (atP.symm.trans foundP)
      obtain rfl := Option.some.inj (atQ.symm.trans foundQ)
      exact below

end Grid

/-! ## The elements of a boundary -/

namespace UseCaseDiagram

variable {d : UseCaseDiagram} {settings : Settings Rat} {measure : Measure Rat}
  {boundary : String}

/-- The names of the elements outside of any boundary. -/
def freeNames (d : UseCaseDiagram) : List String :=
  (d.nodes.values.filter fun node => node.boundary.isNone).map UseCaseNode.name

def memberNames (d : UseCaseDiagram) (boundary : String) : List String :=
  (d.members boundary).map UseCaseNode.name

theorem mem_memberNames {name : String} :
    name ∈ d.memberNames boundary ↔
      ∃ node ∈ d.nodes.values, node.boundary = some boundary ∧ node.name = name := by
  simp only [memberNames, members, List.mem_map, List.mem_filter, decide_eq_true_eq, and_assoc]

theorem boundaries_invariant (d : UseCaseDiagram) :
    d.boundaries.Nodup ∧
      ∀ boundary ∈ d.boundaries, ∃ node ∈ d.nodes.values, node.boundary = some boundary := by
  refine List.foldlRecOn d.nodes.values _ (motive := fun seen : List String => seen.Nodup ∧
    ∀ boundary ∈ seen, ∃ node ∈ d.nodes.values, node.boundary = some boundary)
    ⟨.nil, fun _ member => absurd member List.not_mem_nil⟩ ?_
  intro seen ⟨nodup, occurs⟩ node member
  cases inside : node.boundary with
  | none => exact ⟨nodup, occurs⟩
  | some name =>
      dsimp only
      split
      · exact ⟨nodup, occurs⟩
      · next fresh =>
        exact ⟨Table.nodup_append_new nodup fresh, List.forall_mem_append.mpr
          ⟨occurs, List.forall_mem_singleton.mpr ⟨node, member, inside⟩⟩⟩

theorem mem_boundaries_iff :
    boundary ∈ d.boundaries ↔ ∃ node ∈ d.nodes.values, node.boundary = some boundary :=
  ⟨d.boundaries_invariant.2 boundary, fun ⟨_, member, inside⟩ => mem_boundaries member inside⟩

/-- The elements of a boundary as they stand in the grid. -/
def block (measure : Measure Rat) (d : UseCaseDiagram) (boundary : String) : List (GridItem Rat) :=
  startingRow ((d.members boundary).map fun node => ⟨node.name, node.size measure, false⟩)

theorem map_name_block (measure : Measure Rat) (d : UseCaseDiagram) (boundary : String) :
    (d.block measure boundary).map GridItem.name = d.memberNames boundary := by
  rw [block, map_name_startingRow, List.map_map]
  rfl

theorem starts_startingRow (items : List (GridItem Rat)) : Grid.Starts (startingRow items) := by
  cases items with
  | nil => exact fun _ none => nomatch none
  | cons item items =>
      rintro _ first
      obtain rfl := Option.some.inj first
      rfl

theorem map_name_blocks (measure : Measure Rat) (d : UseCaseDiagram) (boundaries : List String) :
    (boundaries.flatMap (d.block measure)).map GridItem.name = boundaries.flatMap d.memberNames := by
  rw [List.map_flatMap]
  exact congrArg (List.flatMap · boundaries) (funext (map_name_block measure d))

theorem map_name_gridItems (measure : Measure Rat) (d : UseCaseDiagram) :
    (d.gridItems measure).map GridItem.name =
      d.freeNames ++ d.boundaries.flatMap d.memberNames ++ d.notes.map Note.name := by
  have blocks := map_name_blocks measure d d.boundaries
  unfold block at blocks
  simp only [gridItems, List.map_append, map_name_noteItems, blocks, List.map_map]
  rfl

theorem nodup_gridItems (measure : Measure Rat)
    (distinct : (d.nodes.values.map UseCaseNode.name ++ d.notes.map Note.name).Nodup) :
    ((d.gridItems measure).map GridItem.name).Nodup := by
  obtain ⟨nodes, notes, apart⟩ := List.nodup_append'.mp distinct
  have same {node other : UseCaseNode} (here : node ∈ d.nodes.values) (there : other ∈ d.nodes.values)
      (name : node.name = other.name) : node = other :=
    List.inj_on_of_nodup_map nodes here there name
  have inside : d.freeNames ++ d.boundaries.flatMap d.memberNames ⊆
      d.nodes.values.map UseCaseNode.name := by
    refine List.append_subset.mpr ⟨(List.filter_sublist.map _).subset, fun name member => ?_⟩
    obtain ⟨boundary, _, member⟩ := List.mem_flatMap.mp member
    exact (List.filter_sublist.map _).subset member
  rw [map_name_gridItems, List.nodup_append', List.nodup_append', List.nodup_flatMap]
  refine ⟨⟨nodes.sublist (List.filter_sublist.map _), ⟨?_, ?_⟩, ?_⟩, notes,
    List.disjoint_of_subset_left inside apart⟩
  · intro boundary _
    exact nodes.sublist (List.filter_sublist.map _)
  · refine d.boundaries_invariant.1.imp ?_
    intro first second apart name here there
    obtain ⟨node, member, inside, rfl⟩ := mem_memberNames.mp here
    obtain ⟨other, member', inside', name⟩ := mem_memberNames.mp there
    rw [same member' member name] at inside'
    exact apart (Option.some.inj (inside.symm.trans inside'))
  · intro name free member
    obtain ⟨node, here, rfl⟩ := List.mem_map.mp free
    obtain ⟨here, outside⟩ := List.mem_filter.mp here
    obtain ⟨boundary, _, inBoundary⟩ := List.mem_flatMap.mp member
    obtain ⟨other, there, inside', name⟩ := mem_memberNames.mp inBoundary
    rw [same there here name] at inside'
    rw [inside'] at outside
    cases outside

/-- The elements of the grid before those of a boundary, and those behind them. -/
theorem exists_split (measure : Measure Rat) {before behind : List String}
    (split : d.boundaries = before ++ boundary :: behind) :
    ∃ upper lower, d.gridItems measure = upper ++ (d.block measure boundary ++ lower) ∧
      Grid.Starts lower ∧
      upper.map GridItem.name = d.freeNames ++ before.flatMap d.memberNames ∧
      lower.map GridItem.name = behind.flatMap d.memberNames ++ d.notes.map Note.name := by
  have some_boundary : d.boundaries.isEmpty = false := by rw [split]; cases before <;> rfl
  refine ⟨(d.nodes.values.filter fun node => node.boundary.isNone).map
      (fun node => ⟨node.name, node.size measure, false⟩) ++ before.flatMap (d.block measure),
    behind.flatMap (d.block measure) ++ startingRow (Note.gridItems measure d.notes), ?_, ?_, ?_, ?_⟩
  · rw [gridItems, some_boundary, if_neg Bool.false_ne_true, split]
    simp only [List.flatMap_append, List.flatMap_cons, List.append_assoc]
    rfl
  · exact (Grid.starts_flatMap (fun boundary => starts_startingRow _) behind).append
      (starts_startingRow _)
  · rw [List.map_append, map_name_blocks, List.map_map]
    rfl
  · rw [List.map_append, map_name_blocks, map_name_startingRow, Note.map_name_gridItems]

theorem horizontalGap_gridSettings (settings : Settings Rat) (d : UseCaseDiagram) :
    (d.gridSettings settings).horizontalGap = settings.horizontalGap := by
  unfold gridSettings
  split <;> rfl

/-- The distance of two rows has room for a frame above and a frame with its title below. -/
theorem verticalGap_gridSettings (settings : Settings Rat) (occurs : boundary ∈ d.boundaries) :
    (d.gridSettings settings).verticalGap =
      settings.verticalGap + boundaryPadding * 2 + boundaryTitle := by
  cases empty : d.boundaries with
  | nil => exact absurd (empty ▸ occurs) List.not_mem_nil
  | cons first rest =>
      rw [gridSettings, empty]
      rfl

/-- The elements of a boundary stand below all that come before them in the grid, and above all that
come behind them. -/
theorem above_of_split (distinct : ((d.gridItems measure).map GridItem.name).Nodup)
    (across : 0 ≤ settings.horizontalGap) (down : 0 ≤ settings.verticalGap)
    {before behind : List String} (split : d.boundaries = before ++ boundary :: behind) :
    let boxes := Grid.boxes (d.gridSettings settings) (d.gridItems measure)
    let distance := settings.verticalGap + boundaryPadding * 2 + boundaryTitle
    (∀ a ∈ d.freeNames ++ before.flatMap d.memberNames, ∀ b ∈ d.memberNames boundary,
        Above boxes distance a b) ∧
      ∀ b ∈ d.memberNames boundary,
        ∀ c ∈ behind.flatMap d.memberNames ++ d.notes.map Note.name, Above boxes distance b c := by
  have occurs : boundary ∈ d.boundaries := split ▸ List.mem_append_right before List.mem_cons_self
  have gap := verticalGap_gridSettings settings occurs
  have room : 0 ≤ (d.gridSettings settings).verticalGap := by
    have distance : (d.gridSettings settings).verticalGap = settings.verticalGap + 16 * 2 + 20 := gap
    linarith
  rw [← horizontalGap_gridSettings settings d] at across
  obtain ⟨upper, lower, items, starts, upperNames, lowerNames⟩ := exists_split measure split
  rw [items] at distinct
  rw [items, ← gap, ← upperNames, ← lowerNames]
  constructor
  · intro a there b here
    refine Grid.above_of_starts distinct across room ((starts_startingRow _).append starts) there ?_
    rw [List.map_append, map_name_block]
    exact List.mem_append_left _ here
  · intro b here c behind
    rw [← List.append_assoc] at distinct ⊢
    refine Grid.above_of_starts distinct across room starts ?_ behind
    rw [List.map_append, map_name_block]
    exact List.mem_append_right _ here

end UseCaseDiagram

end DiagramMarkup
