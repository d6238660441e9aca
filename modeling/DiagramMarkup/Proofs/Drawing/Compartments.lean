import DiagramMarkup.Proofs.Drawing.Figures
import DiagramMarkup.Proofs.Drawing.Pictures
import Mathlib.Algebra.Order.Field.Rat
import Mathlib.Tactic.Ring

/-! # Rows in boxes

The rows of a class or of an entity fill its box from the title down to the padding at its lower side,
strip by strip. Graphs and pictures draw them in the same strips, and the size of the box counts just
these.
-/

namespace DiagramMarkup

open Scalar Drawio Svg

/-! ## Strips -/

/-- A part of a box over its whole width: the row of a text, or without one the line between two
groups. -/
structure Strip where
  text : Option String
  /-- How far below the upper side of the box it begins. -/
  top : Rat

namespace Strip

def heightOf : Option String → Rat
  | some _ => rowHeight
  | none => separatorHeight

def height (strip : Strip) : Rat :=
  heightOf strip.text

/-- The cell of a strip inside of the cell of its box. -/
def cell (parent : Nat) (width : Rat) (strip : Strip) : Cell Rat :=
  let area : Area Rat := ⟨0, strip.top, width, strip.height⟩
  match strip.text with
  | some row => .vertex row .row parent area
  | none => .vertex "" .separator parent area

/-- The shape of a strip in a box, at the height of its middle. -/
def shape (b : Box Rat) (stroke : String) (lineHeight : Rat) (strip : Strip) : Markup Rat :=
  let middle := b.top + strip.top + strip.height / 2
  match strip.text with
  | some row => textBlock (b.left + 6) middle row .start lineHeight
  | none => ruler b.left b.right middle stroke

/-- Strips that lead from one height down to another, each from where the one before it ends. -/
inductive Fill : Rat → Rat → List Strip → Prop
  | nil (y : Rat) : Fill y y []
  | cons (strip : Strip) {stop : Rat} {strips : List Strip}
      (rest : Fill (strip.top + strip.height) stop strips) : Fill strip.top stop (strip :: strips)

/-- The strips of some texts from a height on. -/
def stripsFrom : Rat → List (Option String) → List Strip
  | _, [] => []
  | y, text :: texts => ⟨text, y⟩ :: stripsFrom (y + heightOf text) texts

def totalHeight (texts : List (Option String)) : Rat :=
  (texts.map heightOf).sum

variable {y : Rat} {texts more : List (Option String)}

theorem totalHeight_cons (text : Option String) :
    totalHeight (text :: texts) = heightOf text + totalHeight texts :=
  List.sum_cons

theorem totalHeight_append :
    totalHeight (texts ++ more) = totalHeight texts + totalHeight more := by
  rw [totalHeight, List.map_append, List.sum_append]
  rfl

theorem totalHeight_rows (rows : List String) :
    totalHeight (rows.map some) = rows.length * rowHeight := by
  induction rows with
  | nil => exact (zero_mul _).symm
  | cons row rows ih =>
      rw [List.map_cons, totalHeight_cons, ih, List.length_cons, Nat.cast_succ, add_mul, one_mul,
        add_comm]
      rfl

theorem map_text_stripsFrom (y : Rat) (texts : List (Option String)) :
    (stripsFrom y texts).map text = texts := by
  induction texts generalizing y with
  | nil => rfl
  | cons text texts ih => exact congrArg (text :: ·) (ih _)

theorem fill_stripsFrom (y : Rat) (texts : List (Option String)) :
    Fill y (y + totalHeight texts) (stripsFrom y texts) := by
  induction texts generalizing y with
  | nil => exact (add_zero y).symm ▸ Fill.nil y
  | cons text texts ih =>
      have rest := ih (y + heightOf text)
      rw [add_assoc, ← totalHeight_cons] at rest
      exact Fill.cons ⟨text, y⟩ rest

theorem stripsFrom_append :
    stripsFrom y (texts ++ more) = stripsFrom y texts ++ stripsFrom (y + totalHeight texts) more := by
  induction texts generalizing y with
  | nil => exact congrArg (stripsFrom · more) (add_zero y).symm
  | cons text texts ih =>
      rw [totalHeight_cons, ← add_assoc]
      exact congrArg (⟨text, y⟩ :: ·) ih

end Strip

open Strip

/-! ## Two ways to draw them -/

namespace Drawio.Graph

theorem rowCells_eq (parent : Nat) (width y : Rat) (rows : List String) :
    rowCells parent width y rows = (stripsFrom y (rows.map some)).map (Strip.cell parent width) := by
  induction rows generalizing y with
  | nil => rfl
  | cons row rows ih =>
      rw [rowCells, ih]
      rfl

theorem behindRows_eq (y : Rat) (rows : List String) :
    behindRows y rows = y + totalHeight (rows.map some) := by
  induction rows generalizing y with
  | nil => exact (add_zero y).symm
  | cons row rows ih =>
      rw [behindRows, ih, List.map_cons, totalHeight_cons, add_assoc]
      rfl

theorem compartmentCells_eq (parent : Nat) (width title : Rat) (rows : Rows) :
    compartmentCells parent width title rows =
      (stripsFrom title rows.items).map (Strip.cell parent width) := by
  unfold compartmentCells Rows.items
  dsimp only
  rw [behindRows_eq, rowCells_eq]
  split
  · rw [rowCells_eq, List.append_assoc, stripsFrom_append, List.map_append]
    rfl
  · rw [rowCells_eq, List.append_nil, stripsFrom_append, List.map_append]

end Drawio.Graph

namespace Rows

theorem shapesFrom_eq (b : Box Rat) (stroke : String) (lineHeight y : Rat)
    (items : List (Option String)) :
    shapesFrom b stroke lineHeight (b.top + y) items =
      (stripsFrom y items).map (Strip.shape b stroke lineHeight) := by
  induction items generalizing y with
  | nil => rfl
  | cons item items ih =>
      cases item with
      | none =>
          rw [shapesFrom, add_assoc b.top y separatorHeight, ih]
          rfl
      | some row =>
          rw [shapesFrom, add_assoc b.top y rowHeight, ih]
          rfl

theorem height_eq (rows : Rows) : (rows.height : Rat) = totalHeight rows.items + bodyPadding := by
  unfold height items all
  rw [totalHeight_append, totalHeight_append, totalHeight_rows, totalHeight_rows, List.length_append,
    Nat.cast_add]
  split
  · change _ = _ + (separatorHeight + 0) + _ + _
    ring
  · change _ = _ + 0 + _ + _
    ring

end Rows

/-! ## Boxes in a graph and in a picture -/

/-- Behind the cell of a box a graph has the cells of its strips. -/
def Drawio.Graph.HasStrips (g : Graph Rat) (box : Cell Rat) (width : Rat) (strips : List Strip) :
    Prop :=
  ∃ before behind, g.cells =
    before ++ (box :: strips.map (Strip.cell (firstNumber + before.length) width)) ++ behind

/-- A picture has a group of a sort that ends with the shapes of strips. In front of them there are the
outline of the box, the part of it below the title, and the heading. -/
def ShowsStrips (trees : List (Markup Rat)) (sort : String) (b : Box Rat) (stroke : String)
    (lineHeight : Rat) (strips : List Strip) : Prop :=
  ∃ outline below heading,
    group sort (outline :: below :: heading :: strips.map (Strip.shape b stroke lineHeight)) ∈ trees

/-- Two groups of texts, and a line between them if neither is empty. -/
def twoGroups (above below : List String) : List (Option String) :=
  above.map some ++ (if above ≠ [] ∧ below ≠ [] then [none] else []) ++ below.map some

namespace Rows

theorem items_eq (rows : Rows) : rows.items = twoGroups rows.above rows.below := by
  have separated : rows.isSeparated = true ↔ rows.above ≠ [] ∧ rows.below ≠ [] := by
    simp only [isSeparated, Bool.and_eq_true, Bool.not_eq_true', List.isEmpty_eq_false_iff]
  simp only [items, twoGroups, separated]

/-- The strips of rows fill a box that has the height of the title and the rows. -/
theorem fill_items (rows : Rows) (title : Rat) {b : Box Rat} (sized : b.height = title + rows.height) :
    Fill title (b.height - bodyPadding) (stripsFrom title rows.items) := by
  have stop : b.height - bodyPadding = title + totalHeight rows.items := by
    rw [sized, height_eq]
    ring
  rw [stop]
  exact fill_stripsFrom title rows.items

variable {rows : Rows} {title : Rat} {b : Box Rat} {heading sort : String} {colors : Colors}
  {lineHeight : Rat} {trees : List (Markup Rat)}

theorem showsStrips_of_mem
    (member : group sort (rows.draw b heading title colors lineHeight) ∈ trees) :
    ShowsStrips trees sort b colors.stroke lineHeight (stripsFrom title rows.items) := by
  rw [draw, shapesFrom_eq] at member
  exact ⟨_, _, _, member⟩

end Rows

theorem Layout.require_of_get? {l : Layout Rat} {b : Box Rat} {name : String}
    (placed : l.boxes.get? name = some b) : l.require name = .ok b := by
  rw [require, placed]

namespace Drawio.Graph

variable {g next : Graph Rat} {box : Cell Rat} {width title : Rat} {strips : List Strip}
  {l : Layout Rat} {b : Box Rat} {name : String}

theorem HasStrips.of_kept (has : g.HasStrips box width strips) (kept : g.cells <+: next.cells) :
    next.HasStrips box width strips := by
  obtain ⟨before, behind, same⟩ := has
  obtain ⟨more, longer⟩ := kept
  refine ⟨before, behind ++ more, ?_⟩
  rw [← longer, same, List.append_assoc]

theorem hasStrips_addCompartments (placed : l.boxes.get? name = some b) (label : String)
    (style : Style Rat) (title : Rat) (rows : Rows) (g : Graph Rat) :
    Ensures (HasStrips · (.vertex label style layer (.ofBox b)) b.width (stripsFrom title rows.items))
      (addCompartments l g name label style title rows) := by
  unfold addCompartments
  rw [Layout.require_of_get? placed]
  refine ensures_ok ⟨g.cells, [], ?_⟩
  rw [List.append_nil, compartmentCells_eq, List.append_cons]
  rfl

theorem hasStrips_addNotes (notes : List Note) (g : Graph Rat) (has : g.HasStrips box width strips) :
    Ensures (HasStrips · box width strips) (addNotes l notes g) :=
  (grows_addNotes (List.Subset.refl _) g).imp fun grows => has.of_kept grows.kept

theorem keepsStrips_addCompartments (label : String) (style : Style Rat) (rows : Rows)
    (g : Graph Rat) (has : g.HasStrips box width strips) :
    Ensures (HasStrips · box width strips) (addCompartments l g name label style title rows) :=
  (grows_addCompartments (List.mem_singleton_self ⟨name, label, style⟩) g title rows).imp
    fun grows => has.of_kept grows.kept

end Drawio.Graph

open Drawio.Graph

variable {l : Layout Rat} {b : Box Rat}

/-! ## Classes -/

namespace ClassDiagram

variable {d : ClassDiagram} {node : ClassNode}

theorem succeeds_addCells (placed : (Content.classes d).elementNames ⊆ l.boxes.keys) (g : Graph Rat) :
    Succeeds (d.addCells l g) := by
  obtain ⟨nodes, notes⟩ := List.append_subset.mp placed
  obtain ⟨next, found, _⟩ := (Draws.foldlM_map (fun g node member =>
    draws_addCompartments (nodes (List.mem_map_of_mem member)) g _ _ _ _) g).bind (draws_addNotes notes)
  exact ⟨next, found⟩

theorem succeeds_draw (placed : (Content.classes d).elementNames ⊆ l.boxes.keys) (lineHeight : Rat) :
    Succeeds (d.draw l lineHeight) := by
  obtain ⟨nodes, notes⟩ := List.append_subset.mp placed
  apply (Layout.succeeds_mapM_require nodes _).bind
  intro classes
  apply (Note.succeeds_draw notes lineHeight).bind
  intro notes
  exact succeeds_ok _

theorem hasStrips_addCells (member : node ∈ d.classes.values)
    (placed : l.boxes.get? node.name = some b) (g : Graph Rat) :
    Ensures (HasStrips · (.vertex node.heading (.ofClass node) layer (.ofBox b)) b.width
      (stripsFrom node.headerHeight node.rows.items)) (d.addCells l g) := by
  refine (ensures_foldlM_of_mem member ?_ ?_ g).bind fun next has => hasStrips_addNotes d.notes next has
  · exact hasStrips_addCompartments placed _ _ _ _
  · exact fun g has other _ => keepsStrips_addCompartments _ _ _ g has

theorem showsStrips_draw (member : node ∈ d.classes.values)
    (placed : l.boxes.get? node.name = some b) (lineHeight : Rat) :
    Ensures (ShowsStrips · "node class" b node.kind.colors.stroke lineHeight
      (stripsFrom node.headerHeight node.rows.items)) (d.draw l lineHeight) := by
  refine (ensures_mem_mapM member).bind fun classes drawn => ?_
  refine (ensures_found _).bind fun notes _ => ensures_ok ?_
  obtain ⟨tree, here, same⟩ := drawn
  rw [Layout.require_of_get? placed] at same
  cases same
  exact Rows.showsStrips_of_mem (List.mem_append_left notes here)

end ClassDiagram

/-! ## Entities -/

namespace EntityDiagram

variable {d : EntityDiagram} {entity : Entity}

theorem succeeds_addCells (placed : (Content.entities d).elementNames ⊆ l.boxes.keys)
    (g : Graph Rat) : Succeeds (d.addCells l g) := by
  obtain ⟨next, found, _⟩ := Draws.foldlM_map (fun g entity member =>
    draws_addCompartments (placed (List.mem_map_of_mem member)) g _ _ _ _) g
  exact ⟨next, found⟩

theorem hasStrips_addCells (member : entity ∈ d.entities.values)
    (placed : l.boxes.get? entity.name = some b) (g : Graph Rat) :
    Ensures (HasStrips · (.vertex entity.label .entity layer (.ofBox b)) b.width
      (stripsFrom titleHeight entity.rows.items)) (d.addCells l g) := by
  refine ensures_foldlM_of_mem member ?_ ?_ g
  · exact hasStrips_addCompartments placed _ _ _ _
  · exact fun g has other _ => keepsStrips_addCompartments _ _ _ g has

theorem showsStrips_draw (member : entity ∈ d.entities.values)
    (placed : l.boxes.get? entity.name = some b) (lineHeight : Rat) :
    Ensures (ShowsStrips · "node entity" b Palette.gray.stroke lineHeight
      (stripsFrom titleHeight entity.rows.items)) (d.draw l lineHeight) := by
  refine (ensures_mem_mapM member).imp fun drawn => ?_
  obtain ⟨tree, here, same⟩ := drawn
  rw [Layout.require_of_get? placed] at same
  cases same
  exact Rows.showsStrips_of_mem here

end EntityDiagram

theorem twoGroups_nil_left (texts : List String) : twoGroups [] texts = texts.map some := by
  simp [twoGroups]

theorem twoGroups_nil_right (texts : List String) : twoGroups texts [] = texts.map some := by
  simp [twoGroups]

/-- The line between the rows of an entity stands in front of the first column that is no key, if keys
stand before it. -/
theorem Entity.items_rows (entity : Entity) : entity.rows.items =
    twoGroups ((entity.columns.takeWhile Column.primaryKey).map Column.line)
      ((entity.columns.dropWhile Column.primaryKey).map Column.line) := by
  rw [Rows.items_eq, List.takeWhile_eq_take_findIdx_not, List.dropWhile_eq_drop_findIdx_not, rows]
  cases found : entity.columns.findIdx? fun column => !column.primaryKey with
  | none =>
      have all := List.findIdx?_eq_none_iff_findIdx_eq.mp found
      rw [separatorAt?, found, all, List.take_length, List.drop_length, Option.filter_none]
      rfl
  | some index =>
      obtain ⟨_, rfl⟩ := List.findIdx?_eq_some_iff_findIdx_eq.mp found
      rw [separatorAt?, found]
      -- A first column that is no key leaves no group above the line.
      rcases Nat.eq_zero_or_pos (entity.columns.findIdx fun column => !column.primaryKey) with
        first | behind
      · rw [first, List.take_zero, List.drop_zero, List.map_nil, twoGroups_nil_left]
        exact twoGroups_nil_right _
      · rw [Option.filter_some, if_pos (decide_eq_true behind), List.map_take, List.map_drop]

/-- Where everything in a diagram of classes or entities has a place, and a box is as high as the size
of its class or entity says, the rows in it are strips that fill it from the title down to the padding
below the last one. The graph has a cell for each of these strips, and the picture a shape in the
middle of each. -/
theorem hasStrips_of_sized (measure : Measure Rat) (l : Layout Rat) (lineHeight : Rat) (g : Graph Rat) :
    (∀ d : ClassDiagram, (Content.classes d).elementNames ⊆ l.boxes.keys →
      ∃ next trees, d.addCells l g = .ok next ∧ d.draw l lineHeight = .ok trees ∧
        ∀ node ∈ d.classes.values, ∀ b, l.boxes.get? node.name = some b →
          b.height = (node.size measure).height →
          ∃ strips, strips.map Strip.text =
              twoGroups (node.attributes.map Member.line) (node.methods.map Member.line) ∧
            Fill node.headerHeight (b.height - bodyPadding) strips ∧
            next.HasStrips (.vertex node.heading (.ofClass node) layer (.ofBox b)) b.width strips ∧
            ShowsStrips trees "node class" b node.kind.colors.stroke lineHeight strips) ∧
    ∀ d : EntityDiagram, (Content.entities d).elementNames ⊆ l.boxes.keys →
      ∃ next trees, d.addCells l g = .ok next ∧ d.draw l lineHeight = .ok trees ∧
        ∀ entity ∈ d.entities.values, ∀ b, l.boxes.get? entity.name = some b →
          b.height = (entity.size measure).height →
          ∃ strips, strips.map Strip.text =
              twoGroups ((entity.columns.takeWhile Column.primaryKey).map Column.line)
                ((entity.columns.dropWhile Column.primaryKey).map Column.line) ∧
            Fill titleHeight (b.height - bodyPadding) strips ∧
            next.HasStrips (.vertex entity.label .entity layer (.ofBox b)) b.width strips ∧
            ShowsStrips trees "node entity" b Palette.gray.stroke lineHeight strips := by
  constructor
  · intro d all_placed
    obtain ⟨next, added⟩ := ClassDiagram.succeeds_addCells all_placed g
    obtain ⟨trees, drawn⟩ := ClassDiagram.succeeds_draw all_placed lineHeight
    refine ⟨next, trees, added, drawn, fun node member b placed sized => ?_⟩
    refine ⟨stripsFrom node.headerHeight node.rows.items, ?_, node.rows.fill_items _ sized, ?_, ?_⟩
    · rw [map_text_stripsFrom, Rows.items_eq, ClassNode.rows]
    · exact ClassDiagram.hasStrips_addCells member placed g next added
    · exact ClassDiagram.showsStrips_draw member placed lineHeight trees drawn
  · intro d all_placed
    obtain ⟨next, added⟩ := EntityDiagram.succeeds_addCells all_placed g
    obtain ⟨trees, drawn⟩ : Succeeds (d.draw l lineHeight) := Layout.succeeds_mapM_require all_placed _
    refine ⟨next, trees, added, drawn, fun entity member b placed sized => ?_⟩
    refine ⟨stripsFrom titleHeight entity.rows.items, ?_, entity.rows.fill_items _ sized, ?_, ?_⟩
    · rw [map_text_stripsFrom, Entity.items_rows]
    · exact EntityDiagram.hasStrips_addCells member placed g next added
    · exact EntityDiagram.showsStrips_draw member placed lineHeight trees drawn

/-- An interface with both groups of members, and an entity whose second column is no key. -/
theorem hasStrips_of_sized_order :
    let measure : Measure Rat := fun text => ⟨8 * text.length, 14⟩
    let node : ClassNode :=
      { name := "A", label := "A", kind := .interface
        attributes := [{ visibility := .itself, name := "id", isMethod := false }]
        methods := [{ visibility := .everyone, name := "pay()", isMethod := true }] }
    let entity : Entity :=
      ⟨"E", "Order", [{ name := "id", primaryKey := true }, { name := "total" }]⟩
    let box : Box Rat := ⟨80, 47, 160, 94⟩
    let table : Box Rat := ⟨280, 40, 160, 80⟩
    let l : Layout Rat := { Layout.empty with boxes := .ofList [("A", box), ("E", table)] }
    let d : ClassDiagram := { classes := .ofList [("A", node)] }
    let e : EntityDiagram := { entities := .ofList [("E", entity)] }
    (box.height = (node.size measure).height ∧ ∃ next trees strips,
      d.addCells l {} = .ok next ∧ d.draw l 14 = .ok trees ∧
        strips.map Strip.text = [some "- id", none, some "+ pay()"] ∧ Fill 40 88 strips ∧
        next.HasStrips (.vertex node.heading (.ofClass node) layer (.ofBox box)) 160 strips ∧
        ShowsStrips trees "node class" box node.kind.colors.stroke 14 strips) ∧
    table.height = (entity.size measure).height ∧ ∃ next trees strips,
      e.addCells l {} = .ok next ∧ e.draw l 14 = .ok trees ∧
        strips.map Strip.text = [some "PK id", none, some "total"] ∧ Fill 26 74 strips ∧
        next.HasStrips (.vertex entity.label .entity layer (.ofBox table)) 160 strips ∧
        ShowsStrips trees "node entity" table Palette.gray.stroke 14 strips := by
  intro measure node entity box table l d e
  obtain ⟨classes, entities⟩ := hasStrips_of_sized measure l 14 {}
  constructor
  · have sized : box.height = (node.size measure).height := by decide +kernel
    obtain ⟨next, trees, added, drawn, each⟩ := classes d (by decide)
    obtain ⟨strips, texts, fill, cells, shapes⟩ :=
      each node (by decide) box (by decide) sized
    have ends : (node.headerHeight : Rat) = 40 ∧ box.height - bodyPadding = 88 := by decide +kernel
    rw [ends.1, ends.2] at fill
    refine ⟨sized, next, trees, strips, added, drawn, ?_, fill, cells, shapes⟩
    rw [texts]
    decide
  · have sized : table.height = (entity.size measure).height := by decide +kernel
    obtain ⟨next, trees, added, drawn, each⟩ := entities e (by decide)
    obtain ⟨strips, texts, fill, cells, shapes⟩ :=
      each entity (by decide) table (by decide) sized
    have ends : (titleHeight : Rat) = 26 ∧ table.height - bodyPadding = 74 := by decide +kernel
    rw [ends.1, ends.2] at fill
    refine ⟨sized, next, trees, strips, added, drawn, ?_, fill, cells, shapes⟩
    rw [texts]
    decide

end DiagramMarkup
