import DiagramMarkup.Proofs.Activity.Names
import DiagramMarkup.Proofs.Conversion
import DiagramMarkup.Proofs.Notes.Names

/-! # The elements that have a place

Nodes and notes share the table of boxes. Outside of conversations no name is given to two of them,
so that each has a box of its own, and there is no box for anything else.
-/

namespace DiagramMarkup

namespace Content

/-- The names of the notes: those of a grid, those in the rows of a conversation, and those beside
the nodes of an activity. -/
def noteNames : Content → List String
  | sequence d => SequenceDiagram.noteNamesFrom 0 d.steps
  | activity d => d.noteNames
  | c => c.notes.map Note.name

/-- The names of everything that is drawn. -/
def drawnNames (c : Content) : List String :=
  c.nodeNames ++ c.noteNames

end Content

namespace ActivityDiagram

variable {d : ActivityDiagram} {name : String}

theorem mem_names_iff (unmarked : Unmarked d.nodes) :
    name ∈ d.visibleNodes.flatMap ActivityNode.names ↔
      name ∈ d.visibleNodes.map ActivityNode.name ++ d.noteNames := by
  have noted : name ∈ d.noteNames ↔
      ∃ node ∈ d.visibleNodes, name ∈ node.note.toList.map fun _ => node.noteName := by
    simp only [noteNames, visibleNodes, List.mem_filterMap, List.mem_filter, List.mem_map,
      Option.mem_toList, Option.map_eq_some_iff]
    constructor
    · rintro ⟨node, member, text, note, same⟩
      refine ⟨node, ⟨member, ?_⟩, text, note, same⟩
      cases marker : node.isMarker with
      | false => rfl
      | true => cases (unmarked node member marker).symm.trans note
    · rintro ⟨node, ⟨member, _⟩, text, note, same⟩
      exact ⟨node, member, text, note, same⟩
  simp only [List.mem_append, noted, List.mem_flatMap, ActivityNode.names, List.mem_cons,
    List.mem_map (f := ActivityNode.name)]
  constructor
  · rintro ⟨node, member, rfl | note⟩
    · exact .inl ⟨node, member, rfl⟩
    · exact .inr ⟨node, member, note⟩
  · rintro (⟨node, member, rfl⟩ | ⟨node, member, note⟩)
    · exact ⟨node, member, .inl rfl⟩
    · exact ⟨node, member, .inr note⟩

end ActivityDiagram

/-! ## The keys of a layout -/

namespace Content

/-- No name is used twice, and the elements that need a place are all that is drawn. -/
structure Distinct (c : Content) : Prop where
  rooted : c.Rooted
  none_loose : c.looseNames = []
  elements : ∀ name, name ∈ c.elementNames ↔ name ∈ c.drawnNames
  nodup : c.drawnNames.Nodup

variable {α : Type} [Scalar α] {c : Content}

theorem Distinct.perm_keys (distinct : c.Distinct) (settings : Settings α) (measure : Measure α) :
    (c.layout settings measure).boxes.keys.Perm c.drawnNames := by
  have fits : c.Fits (c.layout settings measure) := fits_layout distinct.rooted
  rw [List.perm_ext_iff_of_nodup (Table.nodup_keys _) distinct.nodup]
  intro name
  rw [← distinct.elements]
  constructor
  · intro known
    have element := fits.known known
    rwa [distinct.none_loose, List.append_nil] at element
  · intro element
    exact fits.placed element

/-- Where nodes and notes stand in a grid, the notes have names that are left over by the nodes. -/
theorem distinct_of_grid {keys names : List String} {notes : List Note} (rooted : c.Rooted)
    (none_loose : c.looseNames = [])
    (elements : c.elementNames = names ++ (Note.renameColliding keys notes).map Note.name)
    (drawn : c.drawnNames = keys ++ (Note.renameColliding keys notes).map Note.name)
    (keyed : keys = names) (nodup : keys.Nodup) : c.Distinct where
  rooted := rooted
  none_loose := none_loose
  elements name := by rw [elements, drawn, keyed]
  nodup := by
    rw [drawn]
    exact Note.nodup_append_renameColliding nodup notes

theorem distinct_of_nodes (rooted : c.Rooted) (none_loose : c.looseNames = [])
    (unnoted : c.noteNames = []) (keyed : c.nodeNames = c.elementNames) (nodup : c.nodeNames.Nodup) :
    c.Distinct where
  rooted := rooted
  none_loose := none_loose
  elements name := by rw [drawnNames, unnoted, List.append_nil, keyed]
  nodup := by rwa [drawnNames, unnoted, List.append_nil]

end Content

theorem ActivityDiagram.distinct_draftOfLines (lines : List Line) (edges : List Relation) :
    (Content.activity { (draftOfLines lines).1 with edges }).Distinct where
  rooted := trivial
  none_loose := rfl
  elements _ := mem_names_iff (unmarked_draftOfLines lines)
  nodup := nodup_names (d := { (draftOfLines lines).1 with edges })
    (Nesting.nested_draftOfLines lines)

/-- Whatever the lines of a diagram that is no conversation, no name is used twice in it, and its
layout has exactly one box for each of its nodes and notes. -/
theorem Reader.keys_standard {α : Type} [Scalar α] {kind : Kind} (other : kind ≠ .sequence)
    (lines : List Line) :
    ∃ content diagnostics, Reader.standard kind lines = .ok (content, diagnostics) ∧
      content.kind = kind ∧ content.drawnNames.Nodup ∧
      ∀ (settings : Settings α) (measure : Measure α),
        (content.layout settings measure).boxes.keys.Perm content.drawnNames := by
  have of_distinct {c : Content} {diagnostics : List Diagnostic}
      (read : Reader.standard kind lines = .ok (c, diagnostics)) (same : c.kind = kind)
      (distinct : c.Distinct) :
      ∃ content diagnostics, Reader.standard kind lines = .ok (content, diagnostics) ∧
        content.kind = kind ∧ content.drawnNames.Nodup ∧
        ∀ (settings : Settings α) (measure : Measure α),
          (content.layout settings measure).boxes.keys.Perm content.drawnNames :=
    ⟨c, diagnostics, read, same, distinct.nodup, distinct.perm_keys⟩
  cases kind with
  | sequence => exact absurd rfl other
  | classes =>
      have keyed := (ClassDiagram.linked_ofLines lines).keyed
      exact of_distinct rfl rfl
        (Content.distinct_of_grid trivial rfl rfl rfl keyed.keys_eq (Table.nodup_keys _))
  | states =>
      have keyed := (StateDiagram.linked_ofLines lines).keyed
      exact of_distinct rfl rfl
        (Content.distinct_of_grid trivial rfl rfl rfl keyed.keys_eq (Table.nodup_keys _))
  | deployment =>
      have keyed := (DeploymentDiagram.linked_ofLines lines).keyed
      exact of_distinct rfl rfl
        (Content.distinct_of_grid trivial rfl rfl rfl keyed.keys_eq (Table.nodup_keys _))
  | useCases =>
      have keyed := (UseCaseDiagram.linked_ofLines lines).keyed
      exact of_distinct rfl rfl
        (Content.distinct_of_grid trivial rfl rfl rfl keyed.keys_eq (Table.nodup_keys _))
  | mindMap =>
      have keyed := (MindMap.linked_ofLines lines).keyed
      exact of_distinct rfl rfl (Content.distinct_of_nodes (MindMap.rooted_ofLines lines) rfl rfl
        keyed.keys_eq (Table.nodup_keys _))
  | entities =>
      have keyed := (EntityDiagram.linked_ofLines lines).keyed
      exact of_distinct rfl rfl
        (Content.distinct_of_nodes trivial rfl rfl keyed.keys_eq (Table.nodup_keys _))
  | activity =>
      obtain ⟨edges, found, _⟩ := Flow.exists_edges lines
      exact of_distinct (ActivityDiagram.standard_of_edges found) rfl
        (ActivityDiagram.distinct_draftOfLines lines edges)

/-- A note that asks for the name of a class gets another one, and so both have a box. -/
theorem Reader.keys_standard_renamed :
    Kind.classes ≠ .sequence ∧
      ∃ content diagnostics, Reader.standard .classes [⟨1, "class N1"⟩, ⟨2, "note \"hello\" as N1"⟩] =
          .ok (content, diagnostics) ∧
        content.drawnNames = ["N1", "note-0"] ∧
        ∀ (settings : Settings Rat) (measure : Measure Rat),
          (content.layout settings measure).boxes.keys.Perm ["N1", "note-0"] := by
  have other : Kind.classes ≠ .sequence := by decide
  obtain ⟨content, diagnostics, read, _, _, perm⟩ := Reader.keys_standard (α := Rat) other
    [⟨1, "class N1"⟩, ⟨2, "note \"hello\" as N1"⟩]
  have names : content.drawnNames = ["N1", "note-0"] := by
    cases read
    decide +kernel
  refine ⟨other, content, diagnostics, read, names, fun settings measure => ?_⟩
  rw [← names]
  exact perm settings measure

end DiagramMarkup
