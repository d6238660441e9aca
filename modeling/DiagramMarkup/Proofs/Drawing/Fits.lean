import DiagramMarkup.Layout.Diagram
import DiagramMarkup.Proofs.Tables

/-! # Layouts that fit

The layout of a content has a box for every element that is drawn, and for nothing else. Only a mind
map without a root has no layout, since its topics are placed around the root.
-/

namespace DiagramMarkup

/-! ## The elements that are drawn -/

namespace SequenceDiagram

/-- The names of the notes among some steps, from a number of notes on. -/
def noteNamesFrom : Nat → List Step → List String
  | _, [] => []
  | notes, .note _ :: steps => Note.nameAt notes :: noteNamesFrom (notes + 1) steps
  | notes, _ :: steps => noteNamesFrom notes steps

end SequenceDiagram

/-- A mind map is empty or has a root. -/
def MindMap.IsRooted (map : MindMap) : Prop :=
  map.nodes.values = [] ∨ ∃ root, map.root? = some root

/-- The names of a node and its note. -/
def ActivityNode.names (node : ActivityNode) : List String :=
  node.name :: node.note.toList.map fun _ => node.noteName

namespace Content

/-- The names of the elements that must have a place, nodes before notes. -/
def elementNames : Content → List String
  | classes d => d.classes.values.map ClassNode.name ++ d.notes.map Note.name
  | sequence d => d.participants.values.map Participant.name
  | states d => d.states.values.map StateNode.name ++ d.notes.map Note.name
  | mindMap d => d.nodes.values.map Topic.name
  | entities d => d.entities.values.map Entity.name
  | deployment d => d.nodes.values.map Device.name ++ d.notes.map Note.name
  | useCases d => d.nodes.values.map UseCaseNode.name ++ d.notes.map Note.name
  | activity d => d.visibleNodes.flatMap ActivityNode.names

/-- The names of the elements that have a place if there is something to place them at. -/
def looseNames : Content → List String
  | sequence d => SequenceDiagram.noteNamesFrom 0 d.steps
  | _ => []

/-- The topics of a mind map, if there are any, have a root. -/
def Rooted : Content → Prop
  | mindMap map => map.IsRooted
  | _ => True

/-- A layout has a box for every element, and for nothing else, and a row for every step. -/
structure Fits {α : Type} (c : Content) (l : Layout α) : Prop where
  placed : c.elementNames ⊆ l.boxes.keys
  known : l.boxes.keys ⊆ c.elementNames ++ c.looseNames
  timed : ∀ d, c = .sequence d → ∃ t, l.timeline = some t ∧ t.rows.length = d.steps.length

end Content

variable {α : Type} [Scalar α] {settings : Settings α} {measure : Measure α} {name : String}

/-! ## Grids -/

namespace Grid

theorem map_fst_boxesFrom (width : α) (place : GridPlace α) (items : List (GridItem α)) :
    (boxesFrom settings width place items).map Prod.fst = items.map GridItem.name := by
  induction items generalizing place with
  | nil => rfl
  | cons item items ih => simp only [boxesFrom, List.map_cons, ih]

theorem mem_keys_boxes {items : List (GridItem α)} :
    name ∈ (boxes settings items).keys ↔ name ∈ items.map GridItem.name := by
  rw [boxes, Table.mem_keys_ofList, map_fst_boxesFrom]

end Grid

theorem Note.map_name_gridItems (notes : List Note) :
    (Note.gridItems measure notes).map GridItem.name = notes.map Note.name := by
  rw [Note.gridItems, List.map_map]
  rfl

namespace UseCaseDiagram

omit [Scalar α] in
theorem map_name_startingRow (items : List (GridItem α)) :
    (startingRow items).map GridItem.name = items.map GridItem.name := by
  cases items <;> rfl

theorem mem_foldl {ι κ : Type} {f : List κ → ι → List κ} (kept : ∀ seen item, seen ⊆ f seen item)
    {item : ι} {x : κ} (adds : ∀ seen, x ∈ f seen item) {items : List ι} (member : item ∈ items)
    (seen : List κ) : x ∈ items.foldl f seen := by
  obtain ⟨before, behind, rfl⟩ := List.append_of_mem member
  rw [List.foldl_append, List.foldl_cons]
  exact List.foldlRecOn behind f (adds _) fun seen known next _ => kept seen next known

theorem mem_boundaries {d : UseCaseDiagram} {node : UseCaseNode} {boundary : String}
    (member : node ∈ d.nodes.values) (inside : node.boundary = some boundary) :
    boundary ∈ d.boundaries := by
  apply mem_foldl _ _ member
  · intro seen other
    split
    · split
      · exact List.Subset.refl seen
      · exact List.subset_append_left seen _
    · exact List.Subset.refl seen
  · intro seen
    simp only [inside]
    split
    · assumption
    · exact List.mem_append_right _ List.mem_cons_self

theorem map_name_noteItems {d : UseCaseDiagram} :
    (if d.boundaries.isEmpty then Note.gridItems measure d.notes
      else startingRow (Note.gridItems measure d.notes)).map GridItem.name =
        d.notes.map Note.name := by
  split
  · exact Note.map_name_gridItems d.notes
  · rw [map_name_startingRow, Note.map_name_gridItems]

theorem mem_gridItems {d : UseCaseDiagram} :
    name ∈ (d.gridItems measure).map GridItem.name ↔
      name ∈ d.nodes.values.map UseCaseNode.name ++ d.notes.map Note.name := by
  simp only [gridItems, List.map_append, map_name_noteItems, List.mem_append, List.map_flatMap,
    map_name_startingRow, List.map_map, List.mem_flatMap, List.mem_map, Function.comp_apply,
    List.mem_filter, members]
  constructor
  · rintro ((⟨node, ⟨member, _⟩, rfl⟩ | ⟨boundary, _, node, ⟨member, _⟩, rfl⟩) | note)
    · exact .inl ⟨node, member, rfl⟩
    · exact .inl ⟨node, member, rfl⟩
    · exact .inr note
  · rintro (⟨node, member, rfl⟩ | note)
    · left
      cases inside : node.boundary with
      | none => exact .inl ⟨node, ⟨member, by rw [inside]; rfl⟩, rfl⟩
      | some boundary =>
          exact .inr ⟨boundary, mem_boundaries member inside, node,
            ⟨member, decide_eq_true inside⟩, rfl⟩
    · exact .inr note

end UseCaseDiagram

/-! ## Mind maps -/

namespace MindMap

theorem map_fst_stack (root : Topic) (direction y : α) (topics : List Topic) :
    (stack settings measure root direction y topics).1.map Prod.fst = topics.map Topic.name := by
  induction topics generalizing y with
  | nil => rfl
  | cons topic topics ih => simp only [stack, List.map_cons, ih]

theorem map_fst_sideBoxes (map : MindMap) (root : Topic) (left : Bool) :
    (map.sideBoxes settings measure root left).map Prod.fst =
      (map.onSide root left).map Topic.name := by
  simp only [sideBoxes, List.map_map, Function.comp_def]
  exact map_fst_stack root _ _ _

theorem mem_keys_layout {map : MindMap} {root : Topic} (found : map.root? = some root) :
    name ∈ (map.layout settings measure).boxes.keys ↔ name ∈ map.nodes.values.map Topic.name := by
  simp only [layout, found, Table.mem_keys_ofList, List.map_cons, List.map_append,
    map_fst_sideBoxes, List.mem_cons, List.mem_append, List.mem_map, onSide, List.mem_filter]
  constructor
  · rintro (rfl | ⟨topic, ⟨member, _⟩, rfl⟩ | ⟨topic, ⟨member, _⟩, rfl⟩)
    · exact ⟨root, List.mem_of_find?_eq_some found, rfl⟩
    · exact ⟨topic, member, rfl⟩
    · exact ⟨topic, member, rfl⟩
  · rintro ⟨topic, member, rfl⟩
    by_cases same : topic.name = root.name
    · exact .inl same
    · right
      by_cases left : topic.side = .left
      · exact .inr ⟨topic, ⟨member, by simp [same, left]⟩, rfl⟩
      · exact .inl ⟨topic, ⟨member, by simp [same, left]⟩, rfl⟩

end MindMap

/-! ## Activities -/

namespace ActivityDiagram

theorem map_fst_place (width y : α) (d : ActivityDiagram) (node : ActivityNode) :
    (place settings width measure d y node).1.map Prod.fst =
      if node.isMarker then [] else node.names := by
  unfold place
  split
  · rfl
  · simp only [List.map_cons, List.map_map, ActivityNode.names]
    rfl

theorem map_fst_placeFrom (width y : α) (d : ActivityDiagram) (index : Nat)
    (nodes : List ActivityNode) :
    (placeFrom settings width measure d index y nodes).1.map Prod.fst =
      (nodes.filter fun node => !node.isMarker).flatMap ActivityNode.names := by
  induction nodes generalizing index y with
  | nil => rfl
  | cons node nodes ih =>
      simp only [placeFrom, List.map_append, ih, map_fst_place, List.filter_cons]
      cases node.isMarker <;> rfl

theorem mem_keys_layout {d : ActivityDiagram} :
    name ∈ (d.layout settings measure).boxes.keys ↔
      name ∈ d.visibleNodes.flatMap ActivityNode.names := by
  simp only [layout, Table.mem_keys_ofList, map_fst_placeFrom, visibleNodes]

end ActivityDiagram

/-! ## Sequences -/

namespace SequenceDiagram

theorem map_fst_headsFrom (pitch headHeight : α) (column : Nat) (participants : List Participant) :
    (headsFrom settings measure pitch headHeight column participants).map Prod.fst =
      participants.map Participant.name := by
  induction participants generalizing column with
  | nil => rfl
  | cons p ps ih => simp only [headsFrom, List.map_cons, ih]

theorem keys_placeNote (boxes : Table (Box α)) (index : Nat) (note : SequenceNote) (size : Size α)
    (y : α) :
    boxes.keys ⊆ (placeNote boxes index note size y).keys ∧
      (placeNote boxes index note size y).keys ⊆ boxes.keys ++ [Note.nameAt index] := by
  unfold placeNote
  dsimp only
  split
  · constructor
    · intro name member
      exact Table.mem_keys_insert.mpr (.inl member)
    · intro name member
      rw [List.mem_append, List.mem_singleton]
      exact Table.mem_keys_insert.mp member
  · exact ⟨List.Subset.refl _, List.subset_append_left _ _⟩

/-- Every step gets a row, and no boxes but those of notes are added. -/
theorem foldl_placeStep (steps : List Step) (p : Progress α) :
    (steps.foldl (placeStep settings measure) p).rows.length = p.rows.length + steps.length ∧
      p.boxes.keys ⊆ (steps.foldl (placeStep settings measure) p).boxes.keys ∧
        (steps.foldl (placeStep settings measure) p).boxes.keys ⊆
          p.boxes.keys ++ noteNamesFrom p.notes steps := by
  induction steps generalizing p with
  | nil => exact ⟨rfl, List.Subset.refl _, List.subset_append_left _ _⟩
  | cons step steps ih =>
      obtain ⟨rows, kept, known⟩ := ih (placeStep settings measure p step)
      have one_row : (placeStep settings measure p step).rows.length = p.rows.length + 1 := by
        cases step <;> simp only [placeStep, List.length_append, List.length_singleton]
      rw [List.foldl_cons]
      refine ⟨by rw [rows, one_row, List.length_cons]; omega, ?_, ?_⟩
      · cases step with
        | note note =>
            exact List.Subset.trans (keys_placeNote p.boxes p.notes note _ _).1 kept
        | message message => exact kept
        | divider label => exact kept
      · cases step with
        | note note =>
            intro name member
            rcases List.mem_append.mp (known member) with here | later
            · have inserted := (keys_placeNote p.boxes p.notes note _ _).2 here
              rcases List.mem_append.mp inserted with before | new
              · exact List.mem_append_left _ before
              · cases List.mem_singleton.mp new
                exact List.mem_append_right _ List.mem_cons_self
            · exact List.mem_append_right _ (List.mem_cons_of_mem _ later)
        | message message => exact known
        | divider label => exact known

end SequenceDiagram

/-! ## All kinds -/

namespace Layout

variable {l : Layout α} {margin : α}

@[simp] theorem keys_finish : (l.finish margin).boxes.keys = l.boxes.keys := by
  unfold finish
  split
  · rfl
  · dsimp only
    split
    · exact Table.keys_map _
    · rfl

theorem exists_timeline_shift {t : Timeline α} (timed : l.timeline = some t) (dx dy : α) :
    ∃ t', (l.shift dx dy).timeline = some t' ∧ t'.rows.length = t.rows.length :=
  ⟨t.shift dx dy, congrArg (Option.map _) timed, List.length_map _⟩

theorem exists_timeline_finish {t : Timeline α} (timed : l.timeline = some t) (margin : α) :
    ∃ t', (l.finish margin).timeline = some t' ∧ t'.rows.length = t.rows.length := by
  unfold finish
  split
  · exact ⟨t, timed, rfl⟩
  · dsimp only
    split
    · exact exists_timeline_shift timed _ _
    · exact ⟨t, timed, rfl⟩

end Layout

namespace Content

theorem Fits.finish {c : Content} {l : Layout α} (fits : c.Fits l) (margin : α) :
    c.Fits (l.finish margin) where
  placed := by simpa only [Layout.keys_finish] using fits.placed
  known := by simpa only [Layout.keys_finish] using fits.known
  timed d same := by
    obtain ⟨t, timed, rows⟩ := fits.timed d same
    obtain ⟨t', timed', rows'⟩ := Layout.exists_timeline_finish timed margin
    exact ⟨t', timed', rows'.trans rows⟩

omit [Scalar α] in
/-- Outside of sequences, a layout fits if its boxes are those of the elements. -/
theorem fits_of_keys {c : Content} {l : Layout α} (none_loose : c.looseNames = [])
    (other : ∀ d, c ≠ .sequence d) (keys : ∀ name, name ∈ l.boxes.keys ↔ name ∈ c.elementNames) :
    c.Fits l where
  placed name member := (keys name).mpr member
  known name member := by
    rw [none_loose, List.append_nil]
    exact (keys name).mp member
  timed d same := absurd same (other d)

theorem mem_keys_grid {c : Content} {items : List (GridItem α)}
    (same : items.map GridItem.name = c.elementNames) (name : String) :
    name ∈ (Grid.layout settings items).boxes.keys ↔ name ∈ c.elementNames := by
  rw [← same]
  exact Grid.mem_keys_boxes

theorem fits_rawLayout {c : Content} (rooted : c.Rooted) : c.Fits (c.rawLayout settings measure) := by
  cases c with
  | classes d =>
      refine fits_of_keys rfl (fun _ => Content.noConfusion) (mem_keys_grid ?_)
      simp only [List.map_append, Note.map_name_gridItems, List.map_map]
      rfl
  | sequence d =>
      have heads (width height : α) (name : String) :
          name ∈ (Table.ofList (SequenceDiagram.headsFrom settings measure width height 0
            d.participants.values)).keys ↔ name ∈ d.participants.values.map Participant.name := by
        rw [Table.mem_keys_ofList, SequenceDiagram.map_fst_headsFrom]
      refine { placed := ?placed, known := ?known, timed := ?timed }
      case placed =>
        intro name member
        apply (SequenceDiagram.foldl_placeStep d.steps _).2.1
        exact (heads _ _ name).mpr member
      case known =>
        intro name member
        have known := (SequenceDiagram.foldl_placeStep d.steps _).2.2 member
        rcases List.mem_append.mp known with head | note
        · exact List.mem_append_left _ ((heads _ _ name).mp head)
        · exact List.mem_append_right _ note
      case timed =>
        intro d' same
        cases same
        refine ⟨_, rfl, ?_⟩
        exact (SequenceDiagram.foldl_placeStep d.steps _).1.trans (Nat.zero_add _)
  | states d =>
      refine fits_of_keys rfl (fun _ => Content.noConfusion) (mem_keys_grid ?_)
      simp only [List.map_append, Note.map_name_gridItems, List.map_map]
      rfl
  | mindMap d =>
      cases found : d.root? with
      | some root =>
          exact fits_of_keys rfl (fun _ => Content.noConfusion) fun _ => MindMap.mem_keys_layout found
      | none =>
          have none_placed : d.layout settings measure = .empty := by
            simp only [MindMap.layout, found]
          have no_topics : d.nodes.values = [] := by
            apply rooted.resolve_right
            rintro ⟨root, found'⟩
            cases found.symm.trans found'
          refine fits_of_keys rfl (fun _ => Content.noConfusion) fun name => ?_
          rw [rawLayout, none_placed, elementNames, no_topics]
          rfl
  | entities d =>
      refine fits_of_keys rfl (fun _ => Content.noConfusion) (mem_keys_grid ?_)
      simp only [List.map_map]
      rfl
  | deployment d =>
      refine fits_of_keys rfl (fun _ => Content.noConfusion) (mem_keys_grid ?_)
      simp only [List.map_append, Note.map_name_gridItems, List.map_map]
      rfl
  | useCases d =>
      refine fits_of_keys rfl (fun _ => Content.noConfusion) fun name => ?_
      exact Grid.mem_keys_boxes.trans UseCaseDiagram.mem_gridItems
  | activity d =>
      exact fits_of_keys rfl (fun _ => Content.noConfusion) fun _ => ActivityDiagram.mem_keys_layout

/-- The layout of a content fits it. -/
theorem fits_layout {c : Content} (rooted : c.Rooted) : c.Fits (c.layout settings measure) :=
  (fits_rawLayout rooted).finish settings.margin

end Content

end DiagramMarkup
