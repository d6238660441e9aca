import DiagramMarkup.Proofs.Drawing.Shapes
import Mathlib.Data.List.ReduceOption

/-! # The texts of pictures

The texts of a picture are the lines of the texts of the diagram, in the order in which its parts
are drawn.
-/

namespace DiagramMarkup

open Scalar Svg Markup

variable {α β : Type}

/-! ## Elements -/

namespace Markup

variable {ε : Type} {items : List β}

/-- Trees show the lines of some labels. -/
abbrev TellLabels (labels : List String) (trees : List (Markup α)) : Prop :=
  TellAll trees (labels.flatMap Text.lines)

theorem ensures_tellAll_mapM {draw : β → Except ε (Markup α)} {labels : β → List String}
    (each : ∀ x, Ensures (Tells · ((labels x).flatMap Text.lines)) (draw x)) :
    Ensures (TellLabels (items.flatMap labels)) (items.mapM draw) := by
  induction items with
  | nil => exact ensures_ok .nil
  | cons x items ih =>
      rw [List.mapM_cons]
      refine (each x).bind fun tree tells => ih.bind fun trees tell => ensures_ok ?_
      simpa [TellLabels] using TellAll.cons tells tell

theorem ensures_tellAll_mapM_map {draw : β → Except ε (Markup α)} {label : β → String}
    (each : ∀ x, Ensures (Tells · (Text.lines (label x))) (draw x)) :
    Ensures (TellLabels (items.map label)) (items.mapM draw) := by
  rw [List.map_eq_flatMap]
  exact ensures_tellAll_mapM fun x => by simpa using each x

theorem TellLabels.append {labels more : List String} {trees others : List (Markup α)}
    (first : TellLabels labels trees) (behind : TellLabels more others) :
    TellLabels (labels ++ more) (trees ++ others) := by
  simpa [TellLabels] using TellAll.append first behind

theorem tellLabels_flatMap {draw : β → List (Markup α)} {labels : β → List String}
    (each : ∀ x, TellLabels (labels x) (draw x)) (items : List β) :
    TellLabels (items.flatMap labels) (items.flatMap draw) := by
  induction items with
  | nil => exact .nil
  | cons x items ih => exact (each x).append ih

theorem ensures_tellLabels_flatten {draw : β → Except ε (List (Markup α))}
    {labels : β → List String} (each : ∀ x, Ensures (TellLabels (labels x)) (draw x)) :
    Ensures (fun drawn => TellLabels (items.flatMap labels) drawn.flatten) (items.mapM draw) := by
  induction items with
  | nil => exact ensures_ok .nil
  | cons x items ih =>
      rw [List.mapM_cons]
      refine (each x).bind fun trees tell => ih.bind fun drawn tell' => ensures_ok ?_
      exact tell.append tell'

end Markup

/-- The texts of a state that does not only direct the flow: its name and its descriptions. -/
def StateNode.shownLabels (state : StateNode) : List String :=
  if state.kind.isPseudo then []
  else if state.descriptions.isEmpty then [state.label]
  else [state.label, "\n".intercalate state.descriptions]

def ActivityNode.shownLabels (node : ActivityNode) : List String :=
  (if node.kind = .action ∨ node.kind = .decision then [node.label] else []) ++ node.note.toList

namespace SequenceDiagram

/-- The texts of notes with a place, from a number of notes on. -/
def shownNotes (l : Layout α) : Nat → List Step → List String
  | _, [] => []
  | notes, .note note :: steps =>
    (if (l.boxes.get? (Note.nameAt notes)).isSome then [note.text] else []) ++
      shownNotes l (notes + 1) steps
  | notes, _ :: steps => shownNotes l notes steps

/-- The texts of the dividers that have one. -/
def shownDividers (l : Layout α) (d : SequenceDiagram) : List String :=
  l.timeline.toList.flatMap fun t => (d.steps.zip t.rows).flatMap fun
    | (.divider label, _) => if label = "" then [] else [label]
    | _ => []

end SequenceDiagram

namespace Content

/-- The texts that are shown at elements. -/
def shownLabels (l : Layout α) : Content → List String
  | classes d =>
    (d.classes.values.flatMap fun node => node.heading :: node.rows.all) ++ d.notes.map Note.text
  | sequence d =>
    d.participants.values.map Participant.label ++ SequenceDiagram.shownNotes l 0 d.steps
  | states d => d.states.values.flatMap StateNode.shownLabels ++ d.notes.map Note.text
  | mindMap d => d.nodes.values.map Topic.label
  | entities d => d.entities.values.flatMap fun entity => entity.label :: entity.rows.all
  | deployment d => d.nodes.values.map Device.label ++ d.notes.map Note.text
  | useCases d => d.nodes.values.map UseCaseNode.label ++ d.notes.map Note.text
  | activity d => d.visibleNodes.flatMap ActivityNode.shownLabels

/-- The texts that are shown behind links. -/
def shownBehind (l : Layout α) : Content → List String
  | sequence d => d.shownDividers l
  | _ => []

end Content

variable [Scalar α] {l : Layout α}

theorem Note.tellLabels_draw (lineHeight : α) (notes : List Note) :
    Ensures (TellLabels (notes.map Note.text)) (Note.draw l lineHeight notes) :=
  ensures_tellAll_mapM_map fun note => (ensures_found _).bind fun b _ =>
    ensures_ok (tells_note b note.text lineHeight)

namespace Rows

theorem tellAll_shapesFrom (b : Box α) (stroke : String) (lineHeight y : α)
    (items : List (Option String)) :
    TellAll (shapesFrom b stroke lineHeight y items) (items.reduceOption.flatMap Text.lines) := by
  induction items generalizing y with
  | nil => exact .nil
  | cons item items ih =>
      cases item with
      | none => exact .shape (tells_ruler _ _ _ _) (ih _)
      | some row => exact .cons (tells_textBlock _ _ row _ _ (by simp)) (ih _)

theorem reduceOption_items (rows : Rows) : rows.items.reduceOption = rows.all := by
  unfold items all
  split <;> simp [List.reduceOption]

theorem tellLabels_draw (rows : Rows) (b : Box α) (heading : String) (title : α) (colors : Colors)
    (lineHeight : α) :
    TellLabels (heading :: rows.all) (rows.draw b heading title colors lineHeight) := by
  have shapes := tellAll_shapesFrom b colors.stroke lineHeight (b.top + title) rows.items
  rw [reduceOption_items] at shapes
  refine .shape (tells_rounded _ _ _) (.shape ?_ (.cons ?_ shapes))
  · exact tells_element (by decide) (by simp +decide [rectangleAttributes, paint]) .nil
  · exact tells_textBlock _ _ heading _ _ (by simp +decide [bold])

end Rows

theorem StateNode.tellLabels_describedShapes (state : StateNode) (b : Box α) (lineHeight : α) :
    TellLabels [state.label, "\n".intercalate state.descriptions]
      (state.describedShapes b lineHeight) := by
  refine .cons ?_ (.shape (tells_ruler _ _ _ _) (.cons ?_ .nil))
  · exact tells_textBlock _ _ state.label _ _ (by simp +decide [bold])
  · exact tells_textBlock _ _ _ _ _ (by simp)

theorem StateNode.tellLabels_shapes (state : StateNode) (b : Box α) (lineHeight : α) :
    TellLabels state.shownLabels (state.shapes b lineHeight) := by
  have named : TellLabels
      (if state.descriptions.isEmpty then [state.label]
        else [state.label, "\n".intercalate state.descriptions])
      (if state.descriptions.isEmpty then [caption b state.label lineHeight]
        else state.describedShapes b lineHeight) := by
    split
    · exact .cons (tells_caption b state.label lineHeight) .nil
    · exact state.tellLabels_describedShapes b lineHeight
  unfold shapes shownLabels
  cases state.kind with
  | initial => exact (tells_circle _ _ _ _ _).only
  | final => exact .shape (tells_circle _ _ _ _ _) (tells_circle _ _ _ _ _).only
  | fork | join => exact (tells_rounded _ _ _).only
  | choice => exact (tells_diamond _ _).only
  | normal | composite => exact .shape (tells_rounded _ _ _) named

theorem Archetype.tellAll_shapes (archetype : Archetype) (b : Box α) :
    TellAll (archetype.shapes b) [] := by
  cases archetype with
  | database | queue | storage => exact tellAll_cylinder b 8
  | cloud | interface => exact (tells_ellipse _ _).only
  | node =>
      exact .shape (tells_rounded _ _ _) (tells_polyline _ (by simp +decide [paint])).only
  | artifact | file | folder | frame | package | rectangle | component =>
      exact (tells_rounded _ _ _).only

theorem UseCaseNode.tellAll_shapes (node : UseCaseNode) (b : Box α) (lineHeight : α) :
    TellAll (node.shapes b lineHeight) (Text.lines node.label) := by
  unfold shapes
  cases node.kind with
  | actor => exact .shape (tells_figure b) (tells_textBlock _ _ node.label _ _ (by simp)).only
  | useCase => exact .shape (tells_ellipse b _) (tells_caption b node.label lineHeight).only

theorem Topic.tellAll_shapes (topic : Topic) (b : Box α) (lineHeight : α) :
    TellAll (topic.shapes b lineHeight) (Text.lines topic.label) := by
  have label := tells_caption b topic.label lineHeight
  unfold shapes
  dsimp only
  split
  · exact .shape (tells_ellipse _ _) label.only
  · split
    · exact label.only
    · exact .shape (tells_rounded _ _ _) label.only

theorem ActivityNode.tellLabels_shapes (node : ActivityNode) (b : Box α) (lineHeight : α) :
    TellLabels (if node.kind = .action ∨ node.kind = .decision then [node.label] else [])
      (node.shapes b lineHeight) := by
  have label := tells_caption b node.label lineHeight
  unfold shapes
  cases node.kind with
  | start => exact (tells_circle _ _ _ _ _).only
  | stop => exact .shape (tells_circle _ _ _ _ _) (tells_circle _ _ _ _ _).only
  | action => exact .shape (tells_rounded _ _ _) (.cons label .nil)
  | decision => exact .shape (tells_diamond _ _) (.cons label .nil)
  | merge => exact (tells_diamond _ _).only
  | fork | join => exact (tells_rounded _ _ _).only
  | elseMarker | elseifMarker | forkAgainMarker => exact .nil

theorem ActivityNode.tellLabels_draw (lineHeight : α) (node : ActivityNode) :
    Ensures (TellLabels node.shownLabels) (node.draw l lineHeight) := by
  refine (ensures_found _).bind fun b _ => ?_
  have shape := tells_group "node activity" (node.tellLabels_shapes b lineHeight)
  unfold shownLabels
  cases node.note with
  | none =>
      refine ensures_ok ?_
      simpa [TellLabels] using shape.only
  | some note =>
      refine (ensures_found _).bind fun place _ => ensures_ok ?_
      simpa [TellLabels] using TellAll.cons shape (tells_note place note lineHeight).only

theorem Participant.tellAll_shapes (p : Participant) (b : Box α) (lineHeight : α) :
    TellAll (p.shapes b lineHeight) (Text.lines p.label) := by
  unfold shapes
  split
  · exact .shape (tells_figure _) (tells_textBlock _ _ p.label _ _ (by simp)).only
  · exact .shape (tells_rounded _ _ _) (tells_caption b p.label lineHeight).only

namespace SequenceDiagram

theorem tellLabels_drawNotes (lineHeight : α) (notes : Nat) (steps : List Step) :
    TellLabels (shownNotes l notes steps) (drawNotes l lineHeight notes steps) := by
  induction steps generalizing notes with
  | nil => exact .nil
  | cons step steps ih =>
      cases step with
      | message | divider => exact ih notes
      | note note =>
          refine TellLabels.append ?_ (ih _)
          cases l.boxes.get? (Note.nameAt notes) with
          | none => exact .nil
          | some b => exact .cons (tells_note b note.text lineHeight) .nil

theorem tellLabels_divider (t : Timeline α) (lineHeight y : α) (label : String) :
    TellLabels (if label = "" then [] else [label]) (divider t lineHeight y label) := by
  refine .shape (tells_element (by decide) (by simp +decide [lineAttributes]) .nil) ?_
  split
  · exact .nil
  · exact .cons (tells_textBlock _ _ label _ _ (by simp +decide [bold])) .nil

theorem tellLabels_backdrop (lineHeight : α) (d : SequenceDiagram) :
    TellLabels (d.shownDividers l) (d.backdrop l lineHeight) := by
  unfold shownDividers backdrop
  cases l.timeline with
  | none => exact .nil
  | some t =>
      have lifelines : TellAll (d.participants.values.filterMap fun p =>
          (l.boxes.get? p.name).map (lifeline t)) [] := by
        refine tellAll_of_forall fun tree member => ?_
        obtain ⟨p, _, found⟩ := List.mem_filterMap.mp member
        obtain ⟨b, _, rfl⟩ := Option.map_eq_some_iff.mp found
        exact tells_element (by decide) (by simp +decide [lineAttributes]) .nil
      simp only [Option.toList_some, List.flatMap_cons, List.flatMap_nil, List.append_nil]
      refine lifelines.append (tellLabels_flatMap (fun entry => ?_) _)
      obtain ⟨step, y⟩ := entry
      cases step with
      | divider label => exact tellLabels_divider t lineHeight y label
      | message | note => exact .nil

end SequenceDiagram

namespace Content

theorem tellLabels_backdrop (lineHeight : α) (c : Content) :
    TellLabels (c.shownBehind l) (c.backdrop l lineHeight) := by
  cases c with
  | sequence d => exact d.tellLabels_backdrop lineHeight
  | classes | states | mindMap | entities | deployment | useCases | activity => exact .nil

theorem tellLabels_drawElements (lineHeight : α) (c : Content) :
    Ensures (TellLabels (c.shownLabels l)) (c.drawElements l lineHeight) := by
  have with_notes {labels : List String} {notes : List Note}
      {drawn : Except LayoutFault (List (Markup α))} (nodes : Ensures (TellLabels labels) drawn) :
      Ensures (TellLabels (labels ++ notes.map Note.text))
        (do return (← drawn) ++ (← Note.draw l lineHeight notes)) :=
    nodes.bind fun trees tell => (Note.tellLabels_draw lineHeight notes).bind fun others tell' =>
      ensures_ok (tell.append tell')
  cases c with
  | classes d =>
      refine with_notes (ensures_tellAll_mapM fun node => (ensures_found _).bind fun b _ => ?_)
      exact ensures_ok (tells_group _ (node.rows.tellLabels_draw b node.heading _ _ lineHeight))
  | sequence d =>
      refine Ensures.bind (P := TellLabels (d.participants.values.map Participant.label))
        (ensures_tellAll_mapM_map fun p => ?_) fun heads tell => ensures_ok ?_
      · exact (ensures_found _).bind fun b _ =>
          ensures_ok (tells_group _ (p.tellAll_shapes b lineHeight))
      · exact tell.append (SequenceDiagram.tellLabels_drawNotes lineHeight 0 d.steps)
  | states d =>
      refine with_notes (ensures_tellAll_mapM fun state => (ensures_found _).bind fun b _ => ?_)
      exact ensures_ok (tells_group _ (state.tellLabels_shapes b lineHeight))
  | mindMap d =>
      refine ensures_tellAll_mapM_map fun topic => (ensures_found _).bind fun b _ => ensures_ok ?_
      exact tells_group _ (topic.tellAll_shapes b lineHeight)
  | entities d =>
      refine ensures_tellAll_mapM fun entity => (ensures_found _).bind fun b _ => ensures_ok ?_
      exact tells_group _ (entity.rows.tellLabels_draw b entity.label _ _ lineHeight)
  | deployment d =>
      refine with_notes (ensures_tellAll_mapM_map fun device => ?_)
      refine (ensures_found _).bind fun b _ => ?_
      have shapes := (device.archetype.tellAll_shapes b).append
        (tells_caption b device.label lineHeight).only
      exact ensures_ok (tells_group _ shapes)
  | useCases d =>
      refine with_notes (ensures_tellAll_mapM_map fun node => (ensures_found _).bind fun b _ => ?_)
      exact ensures_ok (tells_group _ (node.tellAll_shapes b lineHeight))
  | activity d =>
      refine (ensures_tellLabels_flatten fun node => ?_).bind fun drawn tell => ensures_ok tell
      exact node.tellLabels_draw lineHeight

end Content

/-! ## Pictures -/

/-- The texts of a picture behind its title, each of which is shown as its lines. -/
def Diagram.shownLabels (l : Layout α) (links : List (Link α)) (d : Diagram) : List String :=
  l.groups.map Frame.name ++ l.lanes.map Frame.name ++ d.content.shownBehind l ++
    links.flatMap Link.shownLabels ++ d.content.shownLabels l

omit [Scalar α] in
theorem tellAll_titles (title : Option String) :
    TellAll (title.toList.map fun label => (.element "title" [] [.text label] : Markup α))
      title.toList := by
  have each (label : String) : Tells (.element "title" [] [.text label] : Markup α) [label] :=
    tells_leaf (by decide) (by simp) label
  have all := tellAll_map each title.toList
  rwa [← List.map_eq_flatMap, List.map_id'] at all

/-- A picture is an element around shapes, of which there are always some. It shows the title and
the lines of the texts of the diagram. -/
theorem Diagram.tells_picture (settings : Settings α) (links : List (Link α)) (d : Diagram) :
    Ensures (fun picture => picture.HasChildren ∧
        Tells picture (d.title.toList ++ (d.shownLabels l links).flatMap Text.lines))
      (d.picture settings l links) := by
  unfold picture
  refine (ensures_tellAll_mapM fun link => link.tells_draw l _).bind fun lines tell => ?_
  refine (d.content.tellLabels_drawElements _).bind fun elements tell' => ensures_ok ?_
  have groups := tellAll_map (tells_groupFrame (settings.fontSize * 1.2)) l.groups
  have lanes := tellAll_map (tells_laneFrame settings.laneTitle (settings.fontSize * 1.2)) l.lanes
  have behind := d.content.tellLabels_backdrop (l := l) (settings.fontSize * 1.2)
  have front := (tellAll_titles d.title).append (.shape tells_markers (.shape tells_ground groups))
  have all := (((front.append lanes).append behind).append tell).append tell'
  constructor
  · cases d.title <;> exact ⟨_, _, _, _, rfl⟩
  · refine tells_element (by decide) (by simp +decide [pictureAttributes]) ?_
    simpa [shownLabels, List.flatMap_map] using all

end DiagramMarkup
