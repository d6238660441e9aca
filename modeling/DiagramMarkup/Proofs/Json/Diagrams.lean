import DiagramMarkup.Form.Diagram
import Mathlib.Data.Option.Basic
import DiagramMarkup.Proofs.Json.Records

/-! # Diagrams are read back from their written form

Every record is read back from its own fields, and so is what consists of records. A text of the
written form holds it exactly, as it nests no deeper than a text may.
-/

namespace DiagramMarkup

open Json

/-! ## Relations and notes -/

theorem Relation.ofJson?_toJson (r : Relation) : ofJson? r.toJson = some r := by
  have kind : RelationKind.ofJson? r.kind.toJson = some r.kind :=
    alternative?_name (by cases r.kind <;> decide) (by decide)
  simp [ofJson?, toJson, List.lookup_cons, kind]

theorem Note.ofJson?_toJson (n : Note) : ofJson? n.toJson = some n := by
  simp [ofJson?, toJson, List.lookup_cons]

@[simp] theorem list?_relationsToJson (relations : List Relation) :
    list? Relation.ofJson? (relationsToJson relations) = some relations :=
  list?_map Relation.ofJson?_toJson

@[simp] theorem list?_notesToJson (notes : List Note) :
    list? Note.ofJson? (notesToJson notes) = some notes :=
  list?_map Note.ofJson?_toJson

@[simp] theorem list?_strings (texts : List String) :
    list? string? (array (texts.map string)) = some texts :=
  list?_map fun _ => rfl

/-! ## Parts of diagrams -/

theorem Member.ofJson?_toJson (m : Member) : ofJson? m.toJson = some m := by
  have visibility : alternative? Visibility.all Visibility.name (string m.visibility.name) =
      some m.visibility :=
    alternative?_name (by cases m.visibility <;> decide) (by decide)
  simp [ofJson?, toJson, List.lookup_cons, visibility]

theorem ClassNode.ofJson?_toJson (c : ClassNode) : ofJson? c.toJson = some c := by
  have kind : alternative? ClassKind.all ClassKind.name (string c.kind.name) = some c.kind :=
    alternative?_name (by cases c.kind <;> decide) (by decide)
  simp [ofJson?, toJson, List.lookup_cons, kind, list?_map Member.ofJson?_toJson]

theorem Participant.ofJson?_toJson (p : Participant) : ofJson? p.toJson = some p := by
  have kind : alternative? ParticipantKind.all ParticipantKind.name (string p.kind.name) =
      some p.kind :=
    alternative?_name (by cases p.kind <;> decide) (by decide)
  simp [ofJson?, toJson, List.lookup_cons, kind]

theorem Message.ofJson?_fields (m : Message) : ofJson? (object m.fields) = some m := by
  have kind : alternative? MessageKind.all MessageKind.name (string m.kind.name) = some m.kind :=
    alternative?_name (by cases m.kind <;> decide) (by decide)
  simp [ofJson?, fields, List.lookup_cons, kind]

theorem SequenceNote.ofJson?_fields (n : SequenceNote) : ofJson? (object n.fields) = some n := by
  have placement : alternative? Placement.all Placement.name (string n.placement.name) =
      some n.placement :=
    alternative?_name (by cases n.placement <;> decide) (by decide)
  simp [ofJson?, fields, List.lookup_cons, placement]

theorem StepKind.ofJson?_name (kind : StepKind) : ofJson? (string kind.name) = some kind :=
  alternative?_name (by cases kind <;> decide) (by decide)

theorem Step.ofJson?_toJson (s : Step) : ofJson? s.toJson = some s := by
  cases s with
  | message m =>
      have fresh : ∀ field ∈ m.fields, field.1 ≠ "step" := by
        rw [Message.fields, List.forall_mem_append]
        exact ⟨by simp, forall_mem_optionalField (by simp)⟩
      simp [ofJson?, toJson, tagged?_cons fresh, StepKind.ofJson?_name, Message.ofJson?_fields]
  | note n =>
      have fresh : ∀ field ∈ n.fields, field.1 ≠ "step" := by simp [SequenceNote.fields]
      simp [ofJson?, toJson, tagged?_cons fresh, StepKind.ofJson?_name, SequenceNote.ofJson?_fields]
  | divider label => simp [ofJson?, toJson, tagged?_cons, StepKind.ofJson?_name]

theorem StateNode.ofJson?_toJson (s : StateNode) : ofJson? s.toJson = some s := by
  have kind : alternative? StateKind.all StateKind.name (string s.kind.name) = some s.kind :=
    alternative?_name (by cases s.kind <;> decide) (by decide)
  simp [ofJson?, toJson, List.lookup_cons, kind]

theorem Device.ofJson?_toJson (d : Device) : ofJson? d.toJson = some d := by
  have archetype : alternative? Archetype.all Archetype.name (string d.archetype.name) =
      some d.archetype :=
    alternative?_name (by cases d.archetype <;> decide) (by decide)
  simp [ofJson?, toJson, List.lookup_cons, archetype]

theorem UseCaseNode.ofJson?_toJson (n : UseCaseNode) : ofJson? n.toJson = some n := by
  have kind : alternative? UseCaseKind.all UseCaseKind.name (string n.kind.name) = some n.kind :=
    alternative?_name (by cases n.kind <;> decide) (by decide)
  simp [ofJson?, toJson, List.lookup_cons, kind]

theorem Topic.ofJson?_toJson (t : Topic) : ofJson? t.toJson = some t := by
  have side : alternative? Side.all Side.name (string t.side.name) = some t.side :=
    alternative?_name (by cases t.side <;> decide) (by decide)
  simp [ofJson?, toJson, List.lookup_cons, side]

theorem Column.ofJson?_toJson (c : Column) : ofJson? c.toJson = some c := by
  simp [ofJson?, toJson, List.lookup_cons]

theorem Entity.ofJson?_toJson (e : Entity) : ofJson? e.toJson = some e := by
  simp [ofJson?, toJson, List.lookup_cons, list?_map Column.ofJson?_toJson]

theorem Cardinality.ofJson?_name (c : Cardinality) : ofJson? (string c.name) = some c :=
  alternative?_name (by cases c <;> decide) (by decide)

theorem Relationship.ofJson?_toJson (r : Relationship) : ofJson? r.toJson = some r := by
  simp [ofJson?, toJson, List.lookup_cons, Cardinality.ofJson?_name]

theorem ActivityNode.ofJson?_toJson (n : ActivityNode) : ofJson? n.toJson = some n := by
  have kind : ActivityKind.ofJson? (string n.kind.name) = some n.kind :=
    alternative?_name (by cases n.kind <;> decide) (by decide)
  obtain ⟨name, _, label, yesBranch, branchLabel, opener, looping, lane, partition, note⟩ := n
  cases looping <;> simp [ofJson?, toJson, List.lookup_cons, kind]

theorem Swimlane.ofJson?_toJson (l : Swimlane) : ofJson? l.toJson = some l := by
  simp [ofJson?, toJson, List.lookup_cons]

theorem Partition.ofJson?_toJson (p : Partition) : ofJson? p.toJson = some p := by
  simp [ofJson?, toJson, List.lookup_cons]

/-! ## Contents of diagrams -/

theorem ClassDiagram.ofJson?_fields (title : Option String) (d : ClassDiagram) :
    ofJson? (object (optionalField "title" string title ++ d.fields)) = some (title, d) := by
  simp [ofJson?, fields, List.lookup_cons, table?_ofTable ClassNode.ofJson?_toJson]

theorem SequenceDiagram.ofJson?_fields (title : Option String) (d : SequenceDiagram) :
    ofJson? (object (optionalField "title" string title ++ d.fields)) = some (title, d) := by
  simp [ofJson?, fields, List.lookup_cons, table?_ofTable Participant.ofJson?_toJson,
    list?_map Step.ofJson?_toJson]

theorem StateDiagram.ofJson?_fields (title : Option String) (d : StateDiagram) :
    ofJson? (object (optionalField "title" string title ++ d.fields)) = some (title, d) := by
  simp [ofJson?, fields, List.lookup_cons, table?_ofTable StateNode.ofJson?_toJson]

theorem MindMap.ofJson?_fields (title : Option String) (d : MindMap) :
    ofJson? (object (optionalField "title" string title ++ d.fields)) = some (title, d) := by
  simp [ofJson?, fields, List.lookup_cons, table?_ofTable Topic.ofJson?_toJson]

theorem EntityDiagram.ofJson?_fields (title : Option String) (d : EntityDiagram) :
    ofJson? (object (optionalField "title" string title ++ d.fields)) = some (title, d) := by
  simp [ofJson?, fields, List.lookup_cons, table?_ofTable Entity.ofJson?_toJson,
    list?_map Relationship.ofJson?_toJson]

theorem DeploymentDiagram.ofJson?_fields (title : Option String) (d : DeploymentDiagram) :
    ofJson? (object (optionalField "title" string title ++ d.fields)) = some (title, d) := by
  simp [ofJson?, fields, List.lookup_cons, table?_ofTable Device.ofJson?_toJson]

theorem UseCaseDiagram.ofJson?_fields (title : Option String) (d : UseCaseDiagram) :
    ofJson? (object (optionalField "title" string title ++ d.fields)) = some (title, d) := by
  simp [ofJson?, fields, List.lookup_cons, table?_ofTable UseCaseNode.ofJson?_toJson]

theorem ActivityDiagram.ofJson?_fields (title : Option String) (d : ActivityDiagram) :
    ofJson? (object (optionalField "title" string title ++ d.fields)) = some (title, d) := by
  simp [ofJson?, fields, List.lookup_cons, list?_map ActivityNode.ofJson?_toJson,
    list?_map Swimlane.ofJson?_toJson, list?_map Partition.ofJson?_toJson]

/-- The key of the kind is the key of no other field. -/
theorem Content.key_ne_kind (title : Option String) (c : Content) :
    ∀ field ∈ optionalField "title" string title ++ c.fields, field.1 ≠ "kind" := by
  rw [List.forall_mem_append]
  refine ⟨forall_mem_optionalField (by simp), ?_⟩
  cases c <;>
    simp [fields, ClassDiagram.fields, SequenceDiagram.fields, StateDiagram.fields, MindMap.fields,
      EntityDiagram.fields, DeploymentDiagram.fields, UseCaseDiagram.fields, ActivityDiagram.fields]

theorem Diagram.tagged?_toJson (d : Diagram) :
    tagged? "kind" d.toJson = some (string d.content.kind.name,
      object (optionalField "title" string d.title ++ d.content.fields)) :=
  tagged?_cons (d.content.key_ne_kind d.title)

theorem Content.kind_name (c : Content) :
    alternative? Kind.all Kind.name (string c.kind.name) = some c.kind :=
  alternative?_name (by cases c.kind <;> decide) (by decide)

theorem Diagram.ofJson?_toJson (d : Diagram) : ofJson? d.toJson = some d := by
  obtain ⟨title, content⟩ := d
  simp only [ofJson?, tagged?_toJson, Option.bind_eq_bind, Option.bind_some, content.kind_name]
  cases content with
  | classes d => simp [Content.kind, Content.fields, ofParts, ClassDiagram.ofJson?_fields]
  | sequence d => simp [Content.kind, Content.fields, ofParts, SequenceDiagram.ofJson?_fields]
  | states d => simp [Content.kind, Content.fields, ofParts, StateDiagram.ofJson?_fields]
  | mindMap d => simp [Content.kind, Content.fields, ofParts, MindMap.ofJson?_fields]
  | entities d => simp [Content.kind, Content.fields, ofParts, EntityDiagram.ofJson?_fields]
  | deployment d => simp [Content.kind, Content.fields, ofParts, DeploymentDiagram.ofJson?_fields]
  | useCases d => simp [Content.kind, Content.fields, ofParts, UseCaseDiagram.ofJson?_fields]
  | activity d => simp [Content.kind, Content.fields, ofParts, ActivityDiagram.ofJson?_fields]

/-! ## Texts -/

variable {depth : Nat}

@[simp] theorem Relation.plain (r : Relation) : Plain (depth + 1) r.toJson := by
  simp [toJson, RelationKind.toJson]

@[simp] theorem Note.plain (n : Note) : Plain (depth + 1) n.toJson := by
  simp [toJson]

@[simp] theorem Member.plain (m : Member) : Plain (depth + 1) m.toJson := by
  simp [toJson]

@[simp] theorem ClassNode.plain (c : ClassNode) : Plain (depth + 3) c.toJson := by
  simp [toJson]

@[simp] theorem Participant.plain (p : Participant) : Plain (depth + 1) p.toJson := by
  simp [toJson]

@[simp] theorem Step.plain (s : Step) : Plain (depth + 2) s.toJson := by
  cases s <;> simp [toJson, Message.fields, SequenceNote.fields]

@[simp] theorem StateNode.plain (s : StateNode) : Plain (depth + 2) s.toJson := by
  simp [toJson]

@[simp] theorem Device.plain (d : Device) : Plain (depth + 1) d.toJson := by
  simp [toJson]

@[simp] theorem UseCaseNode.plain (n : UseCaseNode) : Plain (depth + 1) n.toJson := by
  simp [toJson]

@[simp] theorem Topic.plain {t : Topic} :
    Plain (depth + 1) t.toJson ↔ t.level ≤ significandLimit := by
  simp [toJson]

@[simp] theorem Column.plain (c : Column) : Plain (depth + 1) c.toJson := by
  simp [toJson]

@[simp] theorem Entity.plain (e : Entity) : Plain (depth + 3) e.toJson := by
  simp [toJson]

@[simp] theorem Relationship.plain (r : Relationship) : Plain (depth + 1) r.toJson := by
  simp [toJson]

@[simp] theorem ActivityNode.plain (n : ActivityNode) : Plain (depth + 1) n.toJson := by
  cases looping : n.looping <;> simp [toJson, looping]

@[simp] theorem Swimlane.plain {l : Swimlane} :
    Plain (depth + 1) l.toJson ↔ l.first ≤ significandLimit ∧ l.last ≤ significandLimit := by
  simp [toJson]

@[simp] theorem Partition.plain {p : Partition} :
    Plain (depth + 1) p.toJson ↔ p.start ≤ significandLimit ∧ p.stop ≤ significandLimit := by
  simp [toJson]

/-- Every number of a content has at most 64 bits. -/
def Content.HasSmallNumbers : Content → Prop
  | mindMap d => ∀ t ∈ d.nodes.values, t.level ≤ significandLimit
  | activity d =>
    (∀ l ∈ d.swimlanes, l.first ≤ significandLimit ∧ l.last ≤ significandLimit) ∧
      ∀ p ∈ d.partitions, p.start ≤ significandLimit ∧ p.stop ≤ significandLimit
  | _ => True

theorem Diagram.plain {d : Diagram} (small : d.content.HasSmallNumbers) :
    Plain (depth + 5) d.toJson := by
  obtain ⟨title, content⟩ := d
  cases content <;>
    simp_all [toJson, Content.fields, Content.HasSmallNumbers, ClassDiagram.fields,
      SequenceDiagram.fields, StateDiagram.fields, MindMap.fields, EntityDiagram.fields,
      DeploymentDiagram.fields, UseCaseDiagram.fields, ActivityDiagram.fields, relationsToJson,
      notesToJson]

/-- Nothing is lost in the written form of a diagram: whatever its kind, its texts, the order of its
tables and what is absent in it, the same diagram is read back. So it is from a text of the written
form, on one line or over several ones, as long as its numbers have at most 64 bits. -/
theorem Diagram.lossless_toJson (d : Diagram) :
    ofJson? d.toJson = some d ∧
      (d.content.HasSmallNumbers →
        (ofText? d.toJson.compact).bind ofJson? = some d ∧
          (ofText? d.toJson.pretty).bind ofJson? = some d) := by
  refine ⟨d.ofJson?_toJson, fun small => ?_⟩
  have plain : Plain 127 d.toJson := Diagram.plain small
  simp [ofText?_compact plain, ofText?_pretty plain, d.ofJson?_toJson]

/-- A diagram without a title, of one node that has only what it must have. -/
def Diagram.oneStep : Diagram where
  content := .activity {
    nodes := [{ name := "node1", kind := .action, label := "say \"é\"\n" }]
    swimlanes := [{ name := "", first := 0, last := 0 }]
    partitions := [{ name := "all", start := 0, stop := 1 }] }

theorem Diagram.lossless_oneStep :
    oneStep.content.HasSmallNumbers ∧ ofJson? oneStep.toJson = some oneStep ∧
      (ofText? oneStep.toJson.compact).bind ofJson? = some oneStep ∧
        (ofText? oneStep.toJson.pretty).bind ofJson? = some oneStep := by
  have small : oneStep.content.HasSmallNumbers := by
    simp [oneStep, Content.HasSmallNumbers, significandLimit]
  obtain ⟨value, text⟩ := lossless_toJson oneStep
  exact ⟨small, value, text small⟩

end DiagramMarkup
