import DiagramMarkup.Proofs.Drawing.Links
import DiagramMarkup.Proofs.Notes.Names
import DiagramMarkup.Proofs.References.Closed

/-! # What notes are attached to

The element that a note is attached to is entered at the latest when all lines are read. In class and
state diagrams it has the written name. A thing of a deployment may be written in brackets and a use
case in parentheses, and an element may answer to its label; the note keeps what was written, and its
line is drawn only if something has just that name.
-/

namespace DiagramMarkup

/-! ## Targets after the last line -/

namespace Note

variable {note : Note} {name : String}

theorem mem_targets_of_renameColliding {nodes : List String} {notes : List Note}
    (member : note ∈ renameColliding nodes notes) (attached : note.target = some name) :
    name ∈ notes.filterMap target := by
  have same : (renameColliding nodes notes).map target = notes.map target :=
    map_renameFrom target (fun _ _ => rfl) ..
  have here : some name ∈ notes.map target := by
    rw [← same, ← attached]
    exact List.mem_map_of_mem member
  obtain ⟨old, known, old_target⟩ := List.mem_map.mp here
  exact List.mem_filterMap.mpr ⟨old, known, old_target⟩

/-- Where the targets of all notes are entered one after the other, what holds of each when it is
entered and is kept by the others holds of each in the end. -/
theorem holds_of_target {σ : Type} (enter : σ → String → σ) (notes : σ → List Note)
    (P : String → σ → Prop) (same : ∀ s name, notes (enter s name) = notes s)
    (enters : ∀ s name, P name (enter s name))
    (kept : ∀ s name other, P name s → P name (enter s other)) {s : σ} {nodes : List String}
    (member : note ∈ renameColliding nodes (notes (((notes s).filterMap target).foldl enter s)))
    (attached : note.target = some name) :
    P name (((notes s).filterMap target).foldl enter s) := by
  have all_same (names : List String) : notes (names.foldl enter s) = notes s :=
    List.foldlRecOn names enter (motive := fun t => notes t = notes s) rfl
      fun t before name _ => (same t name).trans before
  rw [all_same] at member
  obtain ⟨before, behind, split⟩ :=
    List.append_of_mem (mem_targets_of_renameColliding member attached)
  rw [split, List.foldl_append, List.foldl_cons]
  exact List.foldlRecOn behind enter (enters _ name) fun t holds other _ => kept t name other holds

end Note

variable {lines : List Line} {note : Note} {target : String}

namespace ClassDiagram

theorem mem_keys_of_target (member : note ∈ (ofLines lines).1.notes)
    (attached : note.target = some target) : target ∈ (ofLines lines).1.classes.keys :=
  Note.holds_of_target (fun d : ClassDiagram => (d.ensure ·)) notes
    (fun name d => name ∈ d.classes.keys) (fun _ _ => rfl) (fun _ _ => mem_ensure.mpr (.inr rfl))
    (fun _ _ _ known => mem_ensure.mpr (.inl known)) member attached

end ClassDiagram

namespace StateDiagram

theorem Draft.notes_ensure (draft : Draft) (name : String) (kind : StateKind) :
    (draft.ensure name kind).diagram.notes = draft.diagram.notes := by
  unfold ensure
  dsimp only
  split <;> rfl

theorem mem_keys_of_target (member : note ∈ (ofLines lines).1.notes)
    (attached : note.target = some target) : target ∈ (ofLines lines).1.states.keys :=
  Note.holds_of_target (fun draft : Draft => (draft.ensure · .normal)) (·.diagram.notes)
    (fun name draft => name ∈ draft.diagram.states.keys) (fun draft _ => draft.notes_ensure _ _)
    (fun _ _ => Draft.mem_ensure.mpr (.inr rfl))
    (fun _ _ _ known => Draft.mem_ensure.mpr (.inl known)) member attached

end StateDiagram

namespace DeploymentDiagram

theorem Draft.notes_enter (draft : Draft) (name : String) (archetype : Archetype) :
    (draft.enter name archetype).diagram.notes = draft.diagram.notes := by
  unfold enter
  dsimp only
  split <;> rfl

theorem mem_keys_of_target (member : note ∈ (ofLines lines).1.notes)
    (attached : note.target = some target) :
    (Draft.resolve target.toList).1 ∈ (ofLines lines).1.nodes.keys :=
  Note.holds_of_target (fun draft : Draft => fun name => (draft.ensure name.toList).1)
    (·.diagram.notes)
    (fun name draft => (Draft.resolve name.toList).1 ∈ draft.diagram.nodes.keys)
    (fun draft _ => draft.notes_enter _ _) (fun _ _ => Draft.mem_enter.mpr (.inr rfl))
    (fun _ _ _ known => Draft.mem_enter.mpr (.inl known)) member attached

end DeploymentDiagram

namespace UseCaseDiagram

/-- An element answers to a written name: it has that name, or it was declared with it as its
label. -/
def Answers (d : UseCaseDiagram) (token : List Char) (name : String) : Prop :=
  let written := String.ofList (nameOfToken token).1
  name = written ∧ name ∈ d.nodes.keys ∨
    ∃ node ∈ d.nodes.values, node.name = name ∧ node.kind = (nameOfToken token).2 ∧
      node.label = written

theorem Answers.mem_keys {d : UseCaseDiagram} {token : List Char} {name : String}
    (answers : d.Answers token name) (keyed : d.nodes.Keyed UseCaseNode.name) :
    name ∈ d.nodes.keys := by
  rcases answers with ⟨_, known⟩ | ⟨node, known, rfl, _⟩
  · exact known
  · exact keyed.mem_keys known

namespace Draft

variable {draft : Draft}

theorem notes_ensure (token : List Char) :
    (draft.ensure token).1.diagram.notes = draft.diagram.notes := by
  unfold ensure
  dsimp only
  split
  · rfl
  · split <;> rfl

theorem answers_ensure (token : List Char) :
    ∃ name, (draft.ensure token).1.diagram.Answers token name := by
  unfold ensure Answers
  dsimp only
  split
  · rename_i node found
    have answers := List.find?_some found
    simp only [Bool.and_eq_true, decide_eq_true_eq] at answers
    exact ⟨node.name, .inr ⟨node, List.mem_of_find?_eq_some found, rfl, answers.1.1, answers.1.2⟩⟩
  · split
    · exact ⟨_, .inl ⟨rfl, Table.contains_iff.mp ‹_›⟩⟩
    · exact ⟨_, .inl ⟨rfl, mem_declare.mpr (.inr rfl)⟩⟩

theorem answers_ensure_of_answers {token : List Char} {name : String}
    (answers : draft.diagram.Answers token name) (other : List Char) :
    (draft.ensure other).1.diagram.Answers token name := by
  unfold Draft.ensure
  dsimp only
  split
  · exact answers
  · split
    · exact answers
    · rename_i fresh
      rcases answers with ⟨named, known⟩ | ⟨node, known, labelled⟩
      · exact .inl ⟨named, mem_declare.mpr (.inl known)⟩
      · refine .inr ⟨node, ?_, labelled⟩
        unfold declare
        rw [Table.values_modify_insertNew (fun known => fresh (Table.contains_iff.mpr known))]
        exact List.mem_append_left _ known

end Draft

theorem answers_of_target (member : note ∈ (ofLines lines).1.notes)
    (attached : note.target = some target) :
    ∃ name, (ofLines lines).1.Answers target.toList name :=
  Note.holds_of_target (fun draft : Draft => fun name => (draft.ensure name.toList).1)
    (·.diagram.notes)
    (fun written draft => ∃ name, draft.diagram.Answers written.toList name)
    (fun _ _ => Draft.notes_ensure _) (fun _ _ => Draft.answers_ensure _)
    (fun _ _ _ ⟨name, answers⟩ => ⟨name, Draft.answers_ensure_of_answers answers _⟩) member attached

end UseCaseDiagram

/-! ## The lines of notes -/

namespace Content

/-- The element that a target on a note means. -/
def Means : Content → String → String → Prop
  | deployment _, target, name => name = (DeploymentDiagram.Draft.resolve target.toList).1
  | useCases d, target, name => d.Answers target.toList name
  | _, target, name => name = target

section

variable {α : Type} [Scalar α] {l : Layout α} {c : Content} {name : String}

/-- A dashed line is drawn between a note and something of a name. -/
def Ties (c : Content) (l : Layout α) (note : Note) (target : String) : Prop :=
  ∃ link ∈ c.links l, link.toRelation = { source := note.name, target, kind := .note } ∧
    link.dashed = true

/-- Every attached note has a line, whether or not it is drawn. -/
theorem mem_candidates (member : note ∈ c.notes) (attached : note.target = some target) :
    (Link.ofRelation { source := note.name, target, kind := .note } : Link α) ∈ c.candidates l := by
  have related : { source := note.name, target, kind := .note } ∈ Note.relations c.notes :=
    List.mem_filterMap.mpr ⟨note, member, by rw [attached]; rfl⟩
  cases c with
  | classes d | states d | deployment d | useCases d =>
      exact List.mem_map_of_mem (List.mem_append_right d.relations related)
  | sequence d | mindMap d | entities d | activity d => exact absurd member List.not_mem_nil

theorem ties_iff (member : note ∈ c.notes) (attached : note.target = some target) :
    c.Ties l note target ↔ note.name ∈ l.boxes.keys ∧ target ∈ l.boxes.keys := by
  constructor
  · rintro ⟨link, drawn, same, _⟩
    have placed := placed_of_mem_links drawn
    rwa [same] at placed
  · intro placed
    have candidate := mem_candidates (l := l) member attached
    exact ⟨_, List.mem_filter.mpr ⟨candidate, Link.isPlaced_iff.mpr placed⟩, rfl, rfl⟩

theorem mem_keys_layout {settings : Settings α} {measure : Measure α} (keyed : c.Keyed)
    (member : note ∈ c.notes) :
    name ∈ (c.layout settings measure).boxes.keys ↔
      name ∈ c.nodeNames ∨ name ∈ c.notes.map Note.name := by
  have of_fits (rooted : c.Rooted) (none_loose : c.looseNames = [])
      (same : c.elementNames = c.nodeNames ++ c.notes.map Note.name) :
      name ∈ (c.layout settings measure).boxes.keys ↔
        name ∈ c.nodeNames ∨ name ∈ c.notes.map Note.name := by
    have fits : c.Fits (c.layout settings measure) := fits_layout rooted
    rw [← List.mem_append, ← same]
    constructor
    · intro known
      have element := fits.known known
      rwa [none_loose, List.append_nil] at element
    · intro element
      exact fits.placed element
  cases c with
  | classes d | states d | deployment d | useCases d =>
      exact of_fits trivial rfl (congrArg (· ++ d.notes.map Note.name) keyed.keys_eq.symm)
  | sequence d | mindMap d | entities d | activity d => exact absurd member List.not_mem_nil

/-- The line of an attached note is drawn where a node or a note has the name that is written on
it. -/
theorem ties_layout_iff {settings : Settings α} {measure : Measure α} (keyed : c.Keyed)
    (member : note ∈ c.notes) (attached : note.target = some target) :
    c.Ties (c.layout settings measure) note target ↔
      target ∈ c.nodeNames ∨ target ∈ c.notes.map Note.name := by
  rw [ties_iff member attached, mem_keys_layout keyed member, mem_keys_layout keyed member]
  exact and_iff_right (.inr (List.mem_map_of_mem member))

end

end Content

/-- Whatever a diagram is read from, every target on a note means one of its nodes. The line from the
note is drawn, and dashed, exactly where a node or a note has the name as it is written; in class and
state diagrams the node that is meant has that name. -/
theorem Reader.targets_standard {α : Type} [Scalar α] (kind : Kind) (lines : List Line) :
    ∃ content diagnostics, Reader.standard kind lines = .ok (content, diagnostics) ∧
      ∀ note ∈ content.notes, ∀ target, note.target = some target →
        (∃ name ∈ content.nodeNames, content.Means target name) ∧
          ∀ (settings : Settings α) (measure : Measure α),
            content.Ties (content.layout settings measure) note target ↔
              target ∈ content.nodeNames ∨ target ∈ content.notes.map Note.name := by
  have of_keyed {content : Content} (keyed : content.Keyed)
      (means : ∀ note ∈ content.notes, ∀ target, note.target = some target →
        ∃ name ∈ content.nodeNames, content.Means target name) :
      ∀ note ∈ content.notes, ∀ target, note.target = some target →
        (∃ name ∈ content.nodeNames, content.Means target name) ∧
          ∀ (settings : Settings α) (measure : Measure α),
            content.Ties (content.layout settings measure) note target ↔
              target ∈ content.nodeNames ∨ target ∈ content.notes.map Note.name :=
    fun note member target attached =>
      ⟨means note member target attached, fun _ _ => Content.ties_layout_iff keyed member attached⟩
  cases kind with
  | classes =>
      refine ⟨_, _, rfl, of_keyed (ClassDiagram.linked_ofLines lines).keyed ?_⟩
      intro note member target attached
      exact ⟨target, ClassDiagram.mem_keys_of_target member attached, rfl⟩
  | states =>
      refine ⟨_, _, rfl, of_keyed (StateDiagram.linked_ofLines lines).keyed ?_⟩
      intro note member target attached
      exact ⟨target, StateDiagram.mem_keys_of_target member attached, rfl⟩
  | deployment =>
      refine ⟨_, _, rfl, of_keyed (DeploymentDiagram.linked_ofLines lines).keyed ?_⟩
      intro note member target attached
      exact ⟨_, DeploymentDiagram.mem_keys_of_target member attached, rfl⟩
  | useCases =>
      have keyed := (UseCaseDiagram.linked_ofLines lines).keyed
      refine ⟨_, _, rfl, of_keyed keyed ?_⟩
      intro note member target attached
      obtain ⟨name, answers⟩ := UseCaseDiagram.answers_of_target member attached
      exact ⟨name, answers.mem_keys keyed, answers⟩
  | sequence | mindMap | entities =>
      exact ⟨_, _, rfl, fun _ member => absurd member List.not_mem_nil⟩
  | activity =>
      obtain ⟨d, diagnostics, read, _⟩ := ActivityDiagram.exists_ofLines lines
      refine ⟨.activity d, diagnostics, ?_, fun _ member => absurd member List.not_mem_nil⟩
      simp only [Reader.standard, read]

/-- An actor answers to its label, and so there is nothing of that name for the line to lead to. -/
theorem Reader.target_of_label :
    ∃ d, Reader.standard .useCases [⟨1, "actor \"Bob\" as B"⟩, ⟨2, "note left of Bob : hi"⟩] =
        .ok (.useCases d, []) ∧
      ∃ note ∈ d.notes, note.target = some "Bob" ∧ "Bob" ∉ d.nodes.keys ∧
        ∀ (α : Type) [Scalar α] (settings : Settings α) (measure : Measure α),
          ¬ (Content.useCases d).Ties ((Content.useCases d).layout settings measure) note "Bob" := by
  let lines : List Line := [⟨1, "actor \"Bob\" as B"⟩, ⟨2, "note left of Bob : hi"⟩]
  have notes : (UseCaseDiagram.ofLines lines).1.notes = [⟨"note-0", "hi", some "Bob"⟩] := by
    decide +kernel
  have unnamed : "Bob" ∉ (UseCaseDiagram.ofLines lines).1.nodes.keys ++
      (UseCaseDiagram.ofLines lines).1.notes.map Note.name := by decide +kernel
  have clean : (UseCaseDiagram.ofLines lines).2 = [] := by decide +kernel
  have member : ⟨"note-0", "hi", some "Bob"⟩ ∈ (UseCaseDiagram.ofLines lines).1.notes := by
    rw [notes]
    exact List.mem_singleton_self _
  rw [List.mem_append] at unnamed
  refine ⟨_, ?_, _, member, rfl, fun known => unnamed (.inl known), ?_⟩
  · exact congrArg (fun diagnostics => Except.ok (_, diagnostics)) clean
  · intro α _ settings measure ties
    have keyed : (Content.useCases (UseCaseDiagram.ofLines lines).1).Keyed :=
      (UseCaseDiagram.linked_ofLines lines).keyed
    exact unnamed ((Content.ties_layout_iff keyed member rfl).mp ties)

end DiagramMarkup
