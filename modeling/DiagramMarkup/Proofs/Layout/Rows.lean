import DiagramMarkup.Layout.Grid
import DiagramMarkup.Proofs.Drawing.Fits
import DiagramMarkup.Proofs.Geometry.Exact
import Mathlib.Data.List.Chain
import Mathlib.Tactic.Ring

/-! # The rows of a grid

The boxes of a grid stand in rows, in the order of the elements. A row goes on until it is full or an
element starts another one, and every row stands below all of the rows before it. So no two boxes
overlap, however far apart they are in the list.
-/

namespace DiagramMarkup.Grid

open Scalar

variable {settings : Settings Rat} {width : Rat} {item : GridItem Rat} {items : List (GridItem Rat)}

/-- Elements side by side under one top edge, each with its box. -/
structure IsRow (settings : Settings Rat) (row : List (GridItem Rat × Box Rat)) : Prop where
  notEmpty : row ≠ []
  short : row.length ≤ max settings.columns 1
  sized : ∀ p ∈ row, p.2.width = p.1.size.width ∧ p.2.height = p.1.size.height
  level : ∀ p ∈ row, ∀ q ∈ row, p.2.top = q.2.top
  spaced : row.Pairwise fun p q => p.2.right + settings.horizontalGap ≤ q.2.left
  /-- Only the first element of a row may be one that starts a row. -/
  unbroken : ∀ p ∈ row.tail, p.1.startsRow = false

/-- Rows one below the other. -/
structure IsGrid (settings : Settings Rat) (rows : List (List (GridItem Rat × Box Rat))) : Prop where
  each : ∀ row ∈ rows, IsRow settings row
  spaced : rows.Pairwise fun upper lower =>
    ∀ p ∈ upper, ∀ q ∈ lower, p.2.bottom + settings.verticalGap ≤ q.2.top
  /-- A row ends where it is full or where the next element starts a row. -/
  full : rows.IsChain fun upper lower =>
    upper.length = max settings.columns 1 ∨ ∃ p ∈ lower.head?, p.1.startsRow = true

/-- A table holds the boxes of elements, in their order, and these stand in rows of a grid. -/
def Arranges (settings : Settings Rat) (items : List (GridItem Rat)) (boxes : Table (Box Rat)) :
    Prop :=
  ∃ rows, IsGrid settings rows ∧ rows.flatten.map Prod.fst = items ∧
    boxes.entries = rows.flatten.map fun p => (p.1.name, p.2)

theorem IsGrid.apart {rows : List (List (GridItem Rat × Box Rat))} (isGrid : IsGrid settings rows)
    (across : 0 ≤ settings.horizontalGap) (down : 0 ≤ settings.verticalGap) :
    rows.flatten.Pairwise fun p q => p.2.bounds.Apart q.2.bounds := by
  rw [List.pairwise_flatten]
  constructor
  · intro row member
    apply (isGrid.each row member).spaced.imp
    intro p q beside
    exact Bounds.apart_of_right_le_left ((le_add_of_nonneg_right across).trans beside)
  · apply isGrid.spaced.imp
    intro upper lower below p here q there
    exact Bounds.apart_of_bottom_le_top ((le_add_of_nonneg_right down).trans (below p here q there))

/-! ## The box of one element -/

/-- The left side of a column. -/
def columnLeft (settings : Settings Rat) (width : Rat) (column : Nat) : Rat :=
  settings.margin + column * (width + settings.horizontalGap)

theorem columnLeft_succ (settings : Settings Rat) (width : Rat) (column : Nat) :
    columnLeft settings width (column + 1) =
      columnLeft settings width column + width + settings.horizontalGap := by
  unfold columnLeft
  push_cast
  ring

variable {place : GridPlace Rat}

theorem x_boxAt :
    (boxAt settings width place item).x = columnLeft settings width place.column + width / 2 :=
  rfl

theorem columnLeft_le_left (fits : item.size.width ≤ width) :
    columnLeft settings width place.column ≤ (boxAt settings width place item).left := by
  have width_eq : (boxAt settings width place item).width = item.size.width := rfl
  rw [Box.left_eq, x_boxAt, width_eq]
  linarith

theorem right_le_columnLeft (fits : item.size.width ≤ width) :
    (boxAt settings width place item).right + settings.horizontalGap ≤
      columnLeft settings width (place.column + 1) := by
  have width_eq : (boxAt settings width place item).width = item.size.width := rfl
  rw [Box.right_eq, x_boxAt, width_eq, columnLeft_succ]
  linarith

theorem top_boxAt : (boxAt settings width place item).top = place.top :=
  Box.top_of_hung rfl

theorem bottom_boxAt :
    (boxAt settings width place item).bottom = place.top + item.size.height :=
  Box.bottom_of_hung rfl

/-! ## From a place on -/

/-- What is placed from a place on: elements that go on with its row, and rows below that one. -/
structure Continues (settings : Settings Rat) (width : Rat) (place : GridPlace Rat)
    (part : List (GridItem Rat × Box Rat)) (rows : List (List (GridItem Rat × Box Rat))) : Prop where
  short : place.column + part.length ≤ max settings.columns 1
  sized : ∀ p ∈ part, p.2.width = p.1.size.width ∧ p.2.height = p.1.size.height
  level : ∀ p ∈ part, p.2.top = place.top
  right : ∀ p ∈ part, columnLeft settings width place.column ≤ p.2.left
  spaced : part.Pairwise fun p q => p.2.right + settings.horizontalGap ≤ q.2.left
  unbroken : ∀ p ∈ part.tail, p.1.startsRow = false
  /-- In the middle of a row no element goes on that starts one. -/
  inside : 0 < place.column → ∀ p ∈ part, p.1.startsRow = false
  isGrid : IsGrid settings rows
  below : ∀ row ∈ rows, ∀ q ∈ row, place.top + place.height + settings.verticalGap ≤ q.2.top ∧
    ∀ p ∈ part, p.2.bottom + settings.verticalGap ≤ q.2.top
  full : ∀ row ∈ rows.head?,
    place.column + part.length = max settings.columns 1 ∨ ∃ p ∈ row.head?, p.1.startsRow = true

namespace Continues

variable {part : List (GridItem Rat × Box Rat)} {rows : List (List (GridItem Rat × Box Rat))}

theorem nil (inRow : place.column ≤ max settings.columns 1) :
    Continues settings width place [] [] where
  short := inRow
  sized := fun _ member => absurd member List.not_mem_nil
  level := fun _ member => absurd member List.not_mem_nil
  right := fun _ member => absurd member List.not_mem_nil
  spaced := .nil
  unbroken := fun _ member => absurd member List.not_mem_nil
  inside := fun _ _ member => absurd member List.not_mem_nil
  isGrid := {
    each := fun _ member => absurd member List.not_mem_nil
    spaced := .nil
    full := .nil }
  below := fun _ member => absurd member List.not_mem_nil
  full := fun _ member => nomatch member

theorem cons (after : Continues settings width (placeAfter item place) part rows)
    (across : 0 ≤ settings.horizontalGap) (wide : 0 ≤ width) (fits : item.size.width ≤ width)
    (goes_on : 0 < place.column → item.startsRow = false) :
    Continues settings width place ((item, boxAt settings width place item) :: part) rows := by
  have next_left : columnLeft settings width (place.column + 1) =
      columnLeft settings width place.column + width + settings.horizontalGap :=
    columnLeft_succ settings width place.column
  have height : larger place.height item.size.height = max place.height item.size.height :=
    larger_eq_max _ _
  have others : ∀ p ∈ part, p.1.startsRow = false := after.inside (Nat.succ_pos place.column)
  have count : place.column + (part.length + 1) = place.column + 1 + part.length := by omega
  constructor
  case short =>
    rw [List.length_cons, count]
    exact after.short
  case sized => exact List.forall_mem_cons.mpr ⟨⟨rfl, rfl⟩, after.sized⟩
  case level => exact List.forall_mem_cons.mpr ⟨top_boxAt, after.level⟩
  case right =>
    refine List.forall_mem_cons.mpr ⟨columnLeft_le_left fits, fun p member => ?_⟩
    have right := after.right p member
    change columnLeft settings width (place.column + 1) ≤ _ at right
    linarith
  case spaced =>
    refine List.pairwise_cons.mpr ⟨fun p member => ?_, after.spaced⟩
    exact (right_le_columnLeft fits).trans (after.right p member)
  case unbroken => exact others
  case inside =>
    intro middle
    exact List.forall_mem_cons.mpr ⟨goes_on middle, others⟩
  case isGrid => exact after.isGrid
  case below =>
    intro row member q here
    obtain ⟨under, below⟩ := after.below row member q here
    change place.top + larger place.height item.size.height + _ ≤ _ at under
    rw [height] at under
    refine ⟨?_, List.forall_mem_cons.mpr ⟨?_, below⟩⟩
    · linarith [le_max_left place.height item.size.height]
    · rw [bottom_boxAt]
      linarith [le_max_right place.height item.size.height]
  case full =>
    rw [List.length_cons, count]
    exact after.full

/-- What is placed at the start of a row is a row, and a grid together with the rows below it. -/
theorem isGrid_cons (continues : Continues settings width place part rows)
    (start : place.column = 0) (notEmpty : part ≠ []) : IsGrid settings (part :: rows) where
  each := by
    refine List.forall_mem_cons.mpr ⟨?_, continues.isGrid.each⟩
    have short := continues.short
    rw [start, Nat.zero_add] at short
    exact {
      notEmpty
      short
      sized := continues.sized
      level := fun p here q there => (continues.level p here).trans (continues.level q there).symm
      spaced := continues.spaced
      unbroken := continues.unbroken }
  spaced := by
    refine List.pairwise_cons.mpr ⟨fun row member p here q there => ?_, continues.isGrid.spaced⟩
    exact (continues.below row member q there).2 p here
  full := by
    have full := continues.full
    rw [start, Nat.zero_add] at full
    exact List.isChain_cons.mpr ⟨full, continues.isGrid.full⟩

/-- Where a place has no room, or an element starts a row, all goes on in the row below. -/
theorem wrap
    (continues : Continues settings width
      ⟨0, place.top + (place.height + settings.verticalGap), 0⟩ part rows)
    (notEmpty : part ≠ []) (down : 0 ≤ settings.verticalGap)
    (inRow : place.column ≤ max settings.columns 1)
    (ended : place.column = max settings.columns 1 ∨ ∃ p ∈ part.head?, p.1.startsRow = true) :
    Continues settings width place [] (part :: rows) := by
  constructor
  case short => exact inRow
  case sized | level | right | unbroken => exact fun _ member => absurd member List.not_mem_nil
  case spaced => exact .nil
  case inside => exact fun _ _ member => absurd member List.not_mem_nil
  case isGrid => exact continues.isGrid_cons rfl notEmpty
  case below =>
    intro row member q here
    refine ⟨?_, fun _ member => absurd member List.not_mem_nil⟩
    rcases List.mem_cons.mp member with rfl | later
    · rw [continues.level q here]
      linarith
    · have below := (continues.below row later q here).1
      dsimp only at below
      linarith
  case full =>
    intro row first
    obtain rfl := Option.some.inj first
    exact ended

end Continues

/-! ## All elements -/

theorem exists_continues (across : 0 ≤ settings.horizontalGap) (down : 0 ≤ settings.verticalGap)
    (wide : 0 ≤ width) (fits : ∀ item ∈ items, item.size.width ≤ width)
    (inRow : place.column ≤ max settings.columns 1) :
    ∃ part rows, Continues settings width place part rows ∧
      (part ++ rows.flatten).map Prod.fst = items ∧
      boxesFrom settings width place items =
        (part ++ rows.flatten).map fun p => (p.1.name, p.2) := by
  induction items generalizing place with
  | nil => exact ⟨[], [], .nil inRow, rfl, rfl⟩
  | cons item items ih =>
      obtain ⟨fits_first, fits⟩ := List.forall_mem_cons.mp fits
      by_cases ended : place.column = settings.rowLength ∨ (item.startsRow ∧ 0 < place.column)
      · let start : GridPlace Rat := ⟨0, place.top + (place.height + settings.verticalGap), 0⟩
        have wrapped : placeFor settings item place = start := if_pos ended
        have next : (placeAfter item start).column ≤ max settings.columns 1 :=
          le_max_right settings.columns 1
        obtain ⟨part, rows, continues, same, placed⟩ := ih fits next
        have row := continues.cons across wide fits_first fun middle => absurd middle (Nat.lt_irrefl 0)
        refine ⟨[], _, row.wrap (List.cons_ne_nil _ _) down inRow ?_, ?_, ?_⟩
        · rcases ended with full | ⟨starts, _⟩
          · exact .inl full
          · exact .inr ⟨_, rfl, starts⟩
        · rw [List.nil_append, List.flatten_cons, List.cons_append, List.map_cons, same]
        · rw [boxesFrom, wrapped, placed]
          rfl
      · have stays : placeFor settings item place = place := if_neg ended
        obtain ⟨room, goes_on⟩ := not_or.mp ended
        have next : (placeAfter item place).column ≤ max settings.columns 1 :=
          Nat.lt_of_le_of_ne inRow room
        obtain ⟨part, rows, continues, same, placed⟩ := ih fits next
        refine ⟨_, rows, continues.cons across wide fits_first fun middle => ?_, ?_, ?_⟩
        · exact Bool.eq_false_iff.mpr fun starts => goes_on ⟨starts, middle⟩
        · rw [List.cons_append, List.map_cons, same]
        · rw [boxesFrom, stays, placed]
          rfl

/-- The boxes of elements stand in rows of a grid, in the order of the elements. -/
theorem exists_isGrid (settings : Settings Rat) (items : List (GridItem Rat))
    (across : 0 ≤ settings.horizontalGap) (down : 0 ≤ settings.verticalGap) :
    ∃ rows, IsGrid settings rows ∧ rows.flatten.map Prod.fst = items ∧
      boxesFrom settings (largest (items.map fun item => item.size.width))
        ⟨0, settings.margin, 0⟩ items = rows.flatten.map fun p => (p.1.name, p.2) := by
  have fits : ∀ item ∈ items,
      item.size.width ≤ largest (items.map fun item => item.size.width) :=
    fun item member => le_largest (List.mem_map_of_mem member)
  let start : GridPlace Rat := ⟨0, settings.margin, 0⟩
  have inRow : start.column ≤ max settings.columns 1 := Nat.zero_le _
  obtain ⟨part, rows, continues, same, placed⟩ :=
    exists_continues across down (largest_nonneg _) fits inRow
  cases part with
  | nil => exact ⟨rows, continues.isGrid, same, placed⟩
  | cons p part =>
      exact ⟨_, continues.isGrid_cons rfl (List.cons_ne_nil p part), same, placed⟩

/-- Elements of different names stand in the rows of a grid, every one with its own size: at most so
many in a row as there are columns, or one, all of them under one top edge. An element that starts a
row is the first one of its row, the rows follow each other downwards in the order of the elements,
and no two boxes have a common inside. -/
theorem arranged_boxes {settings : Settings Rat} {items : List (GridItem Rat)}
    (distinct : (items.map GridItem.name).Nodup) (across : 0 ≤ settings.horizontalGap)
    (down : 0 ≤ settings.verticalGap) :
    Arranges settings items (layout settings items).boxes ∧
      (layout settings items).boxes.values.Pairwise fun a b => a.bounds.Apart b.bounds := by
  obtain ⟨rows, isGrid, same, placed⟩ := exists_isGrid settings items across down
  have entries : (layout settings items).boxes.entries =
      rows.flatten.map fun p => (p.1.name, p.2) := by
    rw [← placed]
    apply Table.entries_ofList
    rw [map_fst_boxesFrom]
    exact distinct
  refine ⟨⟨rows, isGrid, same, entries⟩, ?_⟩
  rw [Table.values, entries, List.map_map, List.pairwise_map]
  exact isGrid.apart across down

theorem arranged_boxes_pairs :
    let settings : Settings Rat := { Settings.standard with columns := 2, verticalGap := 0 }
    let items : List (GridItem Rat) :=
      [⟨"A", ⟨100, 50⟩, false⟩, ⟨"B", ⟨60, 80⟩, false⟩, ⟨"C", ⟨0, 40⟩, false⟩, ⟨"D", ⟨30, 30⟩, true⟩]
    (items.map GridItem.name).Nodup ∧ 0 ≤ settings.horizontalGap ∧ 0 ≤ settings.verticalGap ∧
      Arranges settings items (layout settings items).boxes ∧
        (layout settings items).boxes.values.Pairwise fun a b => a.bounds.Apart b.bounds := by
  intro settings items
  have distinct : (items.map GridItem.name).Nodup := by decide
  have across : 0 ≤ settings.horizontalGap := by decide
  have down : 0 ≤ settings.verticalGap := by decide
  exact ⟨distinct, across, down, arranged_boxes distinct across down⟩

end DiagramMarkup.Grid
