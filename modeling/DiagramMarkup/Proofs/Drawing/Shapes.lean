import DiagramMarkup.Proofs.Markup.Documents
import DiagramMarkup.Proofs.Success
import DiagramMarkup.Svg.Document

/-! # Shapes and their texts

Every shape of a picture has fixed names, and the texts in it are the lines of those that it is
drawn for.
-/

namespace DiagramMarkup

open Scalar Svg

variable {α β : Type}

namespace Markup

/-- A tree shows some texts. -/
structure Tells (tree : Markup α) (shown : List String) : Prop where
  proper : tree.Proper
  texts : tree.texts = shown

structure TellAll (trees : List (Markup α)) (shown : List String) : Prop where
  proper : ∀ tree ∈ trees, tree.Proper
  texts : allTexts trees = shown

variable {tree : Markup α} {trees others : List (Markup α)} {shown more : List String}
  {name : String} {attributes : List (Attribute α)}

theorem TellAll.nil : TellAll ([] : List (Markup α)) [] :=
  ⟨by simp, rfl⟩

theorem TellAll.cons (first : Tells tree shown) (behind : TellAll trees more) :
    TellAll (tree :: trees) (shown ++ more) :=
  ⟨List.forall_mem_cons.mpr ⟨first.proper, behind.proper⟩, by
    rw [allTexts, first.texts, behind.texts]⟩

theorem TellAll.shape (first : Tells tree []) (behind : TellAll trees shown) :
    TellAll (tree :: trees) shown :=
  TellAll.cons first behind

theorem Tells.only (tells : Tells tree shown) : TellAll [tree] shown := by
  simpa using TellAll.cons tells .nil

theorem allTexts_append (trees others : List (Markup α)) :
    allTexts (trees ++ others) = allTexts trees ++ allTexts others := by
  induction trees with
  | nil => rfl
  | cons tree trees ih => simp [allTexts, ih]

theorem TellAll.append (first : TellAll trees shown) (behind : TellAll others more) :
    TellAll (trees ++ others) (shown ++ more) := by
  refine ⟨List.forall_mem_append.mpr ⟨first.proper, behind.proper⟩, ?_⟩
  rw [allTexts_append, first.texts, behind.texts]

theorem tellAll_map {draw : β → Markup α} {texts : β → List String}
    (each : ∀ x, Tells (draw x) (texts x)) (items : List β) :
    TellAll (items.map draw) (items.flatMap texts) := by
  induction items with
  | nil => exact .nil
  | cons x items ih => exact .cons (each x) ih

theorem tellAll_of_forall (each : ∀ tree ∈ trees, Tells tree []) : TellAll trees [] := by
  induction trees with
  | nil => exact .nil
  | cons tree trees ih =>
      obtain ⟨first, behind⟩ := List.forall_mem_cons.mp each
      exact .shape first (ih behind)

theorem tells_element (isName : IsName name) (names : ∀ a ∈ attributes, IsName a.name)
    (inside : TellAll trees shown) : Tells (element name attributes trees) shown :=
  ⟨.branch isName names inside.proper, inside.texts⟩

theorem tells_leaf (isName : IsName name) (names : ∀ a ∈ attributes, IsName a.name) (s : String) :
    Tells (element name attributes [text s]) [s] :=
  ⟨.leaf isName names, rfl⟩

end Markup

open Markup

/-! ## Shapes -/

namespace Markup.Attribute

@[simp] theorem name_text (name value : String) : (text name value : Attribute α).name = name := rfl

@[simp] theorem name_number (name : String) (x : α) : (number name x).name = name := rfl

@[simp] theorem name_points (name : String) (ps : List (Point α)) :
    (points name ps).name = name := rfl

end Markup.Attribute

namespace Svg

section Outlines

variable {attributes : List (Attribute α)} {children : List (Markup α)} {shown : List String}

theorem tells_circle (x y radius : α) (colors : Colors) (thickness : α) :
    Tells (circle x y radius colors thickness) [] :=
  tells_element (by decide) (by simp +decide [paint]) .nil

theorem tells_path (strokes : List (Stroke α)) (colors : Colors) : Tells (path strokes colors) [] :=
  tells_element (by decide) (by simp +decide [paint]) .nil

theorem tells_line (a b : Point α) (names : ∀ a ∈ attributes, IsName a.name) :
    Tells (line a b attributes) [] :=
  tells_element (by decide)
    (List.forall_mem_append.mpr ⟨by simp +decide [lineAttributes], names⟩) .nil

theorem tells_polyline (ps : List (Point α)) (names : ∀ a ∈ attributes, IsName a.name) :
    Tells (polyline ps attributes) [] :=
  tells_element (by decide) (List.forall_mem_cons.mpr ⟨by simp +decide, names⟩) .nil

theorem tells_ruler (left right y : α) (stroke : String) : Tells (ruler left right y stroke) [] :=
  tells_line _ _ (by simp +decide)

theorem tells_group (name : String) (inside : TellAll children shown) :
    Tells (group name children) shown :=
  tells_element (by decide) (by simp +decide) inside

theorem tells_marker (id width height x y units : String)
    (names : ∀ a ∈ attributes, IsName a.name) :
    Tells (marker id width height x y units attributes) [] :=
  tells_element (by decide) (by simp +decide) (tells_element (by decide) names .nil).only

theorem tells_markers : Tells (markers : Markup α) [] := by
  refine tells_element (by decide) (by simp) ?_
  refine .shape ?_ (.shape ?_ (.shape ?_ (.shape ?_ (Tells.only ?_))))
  all_goals exact tells_marker _ _ _ _ _ _ (by simp +decide)

theorem tells_ground : Tells (ground : Markup α) [] :=
  tells_element (by decide) (by simp +decide) .nil

end Outlines

variable [Scalar α] {attributes : List (Attribute α)}

theorem tells_rounded (b : Box α) (radius : α) (colors : Colors) :
    Tells (rounded b radius colors) [] :=
  tells_element (by decide) (by simp +decide [rectangleAttributes, paint]) .nil

theorem tells_ellipse (b : Box α) (colors : Colors) : Tells (ellipse b colors) [] :=
  tells_element (by decide) (by simp +decide [paint]) .nil

theorem tells_diamond (b : Box α) (colors : Colors) : Tells (diamond b colors) [] :=
  tells_element (by decide) (by simp +decide [paint]) .nil

/-- A text is shown as its lines. -/
theorem tells_textBlock (x y : α) (text : String) (anchor : Anchor) (lineHeight : α)
    (names : ∀ a ∈ attributes, IsName a.name) :
    Tells (textBlock x y text anchor lineHeight attributes) (Text.lines text) := by
  refine tells_element (by decide) (List.forall_mem_append.mpr ⟨by simp +decide, names⟩) ?_
  have each (entry : String × Nat) := tells_leaf (show IsName "tspan" by decide)
    (show ∀ a ∈ [Attribute.number "x" x, .number "y"
        (firstLine y lineHeight (Text.lines text).length + (entry.2 : α) * lineHeight)],
      IsName a.name by simp +decide) entry.1
  have lines := tellAll_map each (Text.lines text).zipIdx
  rw [← List.map_eq_flatMap, List.zipIdx_map_fst] at lines
  exact lines

theorem tells_caption (b : Box α) (text : String) (lineHeight : α) :
    Tells (caption b text lineHeight) (Text.lines text) :=
  tells_textBlock _ _ text _ _ (by simp)

theorem tells_figure (b : Box α) : Tells (figure b) [] := by
  have plain (a b : Point α) : Tells (line a b []) [] := tells_line a b (by simp)
  refine tells_element (by decide) (by simp +decide) ?_
  exact .shape (tells_element (by decide) (by simp +decide) .nil)
    (.shape (plain _ _) (.shape (plain _ _) (.shape (plain _ _) (plain _ _).only)))

theorem tells_note (b : Box α) (text : String) (lineHeight : α) :
    Tells (note b text lineHeight) (Text.lines text) :=
  tells_group "note" <| .shape (tells_path _ _) <| .shape (tells_path _ _) <|
    (tells_textBlock _ _ text _ _ (by simp)).only

theorem tellAll_cylinder (b : Box α) (cap : α) : TellAll (cylinder b cap) [] :=
  .shape (tells_path _ _) (tells_path _ _).only

theorem tells_groupFrame (lineHeight : α) (f : Frame α) :
    Tells (groupFrame lineHeight f) (Text.lines f.name) :=
  tells_group "group" <|
    .shape (tells_element (by decide) (by simp +decide [rectangleAttributes, paint]) .nil)
      (tells_textBlock _ _ f.name _ _ (by simp +decide [bold])).only

theorem tells_laneFrame (title lineHeight : α) (f : Frame α) :
    Tells (laneFrame title lineHeight f) (Text.lines f.name) :=
  tells_group "lane" <|
    .shape (tells_element (by decide) (by simp +decide [rectangleAttributes, paint]) .nil) <|
      .shape (tells_ruler _ _ _ _) (tells_textBlock _ _ f.name _ _ (by simp +decide [bold])).only

end Svg

/-! ## Links -/

namespace Link

/-- The texts that are shown at a link; those at its ends only beside a straight line. -/
def shownLabels (link : Link α) : List String :=
  link.label.toList ++
    if link.message.isSome ∨ link.upwards then []
    else link.sourceLabel.toList ++ link.targetLabel.toList

variable [Scalar α]

omit [Scalar α] in
theorem isName_markAttributes (link : Link α) : ∀ a ∈ link.markAttributes, IsName a.name := by
  unfold markAttributes
  dsimp only
  repeat' split
  all_goals simp +decide

omit [Scalar α] in
theorem isName_strokeAttributes (link : Link α) : ∀ a ∈ link.strokeAttributes, IsName a.name := by
  unfold strokeAttributes
  refine List.forall_mem_append.mpr ⟨?_, link.isName_markAttributes⟩
  split <;> simp +decide

theorem tellAll_labelAt (x y : α) (label : Option String) (anchor : Anchor) (lineHeight : α) :
    TellAll (labelAt x y label anchor lineHeight) (label.toList.flatMap Text.lines) :=
  tellAll_map (fun text => tells_textBlock x y text anchor lineHeight (by simp +decide)) _

theorem tells_draw (l : Layout α) (lineHeight : α) (link : Link α) :
    Ensures (Tells · (link.shownLabels.flatMap Text.lines)) (link.draw l lineHeight) := by
  refine (ensures_found _).bind fun source _ => (ensures_found _).bind fun target _ => ?_
  refine ensures_ok (tells_group "edge" ?_)
  have strokes := link.isName_strokeAttributes
  unfold shapes shownLabels
  cases link.message with
  | some message =>
      unfold messageShapes
      simp only [Option.isSome_some, true_or, if_true, List.append_nil]
      split
      · exact .shape (tells_polyline _ strokes) (tellAll_labelAt _ _ _ _ _)
      · exact .shape (tells_line _ _ strokes) (tellAll_labelAt _ _ _ _ _)
  | none =>
      cases link.upwards with
      | true =>
          simp only [upwardShapes, or_true, if_true, List.append_nil]
          exact .shape (tells_polyline _ strokes) (tellAll_labelAt _ _ _ _ _)
      | false =>
          simp only [Bool.false_eq_true, ↓reduceIte, straightShapes, List.append_assoc,
            Option.isSome_none, or_self, List.flatMap_append]
          exact .shape (tells_line _ _ strokes) <| .append (tellAll_labelAt _ _ _ _ _) <|
            .append (tellAll_labelAt _ _ _ _ _) (tellAll_labelAt _ _ _ _ _)

end Link

end DiagramMarkup
