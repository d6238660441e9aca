import DiagramMarkup.Proofs.Activity.ControlFlow
import DiagramMarkup.Proofs.References.Nodes
import DiagramMarkup.Proofs.References.Scopes
import DiagramMarkup.Proofs.References.Sequence
import DiagramMarkup.Reading.Engine

/-! # Contents that refer to nothing else

Whatever the kind of a diagram and whatever its lines, what is read refers only to its own nodes.
-/

namespace DiagramMarkup

namespace Content

/-- The names of the nodes that are drawn. -/
def nodeNames : Content → List String
  | classes d => d.classes.keys
  | sequence d => d.participants.keys
  | states d => d.states.keys
  | mindMap d => d.nodes.keys
  | entities d => d.entities.keys
  | deployment d => d.nodes.keys
  | useCases d => d.nodes.keys
  | activity d => d.visibleNodes.map ActivityNode.name

/-- Every node stands in its table under its own name; the nodes of an activity stand in no table. -/
def Keyed : Content → Prop
  | classes d => d.classes.Keyed ClassNode.name
  | sequence d => d.participants.Keyed Participant.name
  | states d => d.states.Keyed StateNode.name
  | mindMap d => d.nodes.Keyed Topic.name
  | entities d => d.entities.Keyed Entity.name
  | deployment d => d.nodes.Keyed Device.name
  | useCases d => d.nodes.Keyed UseCaseNode.name
  | activity _ => True

/-- The participants of the notes in a conversation. -/
def noted : Content → List String
  | sequence d => d.noted
  | _ => []

/-- A content that refers to its own nodes only. -/
structure Closed (c : Content) : Prop where
  keyed : c.Keyed
  joined : ∀ r ∈ c.relations, r.source ∈ c.nodeNames ∧ r.target ∈ c.nodeNames
  noted : c.noted ⊆ c.nodeNames

end Content

namespace ActivityDiagram

theorem ofLines_of_edges {lines : List Line} {edges : List Relation}
    (found : Flow.edges (draftOfLines lines).1.nodes = .ok edges) :
    ofLines lines = .ok ({ (draftOfLines lines).1 with edges }, (draftOfLines lines).2) := by
  rw [ofLines, show draftOfLines lines = ((draftOfLines lines).1, (draftOfLines lines).2) from rfl]
  simp only [found]
  rfl

theorem standard_of_edges {lines : List Line} {edges : List Relation}
    (found : Flow.edges (draftOfLines lines).1.nodes = .ok edges) :
    Reader.standard .activity lines =
      .ok (.activity { (draftOfLines lines).1 with edges }, (draftOfLines lines).2) := by
  simp only [Reader.standard, ofLines_of_edges found]

/-- The edges of an activity are found, and they run between nodes that are drawn. -/
theorem exists_ofLines (lines : List Line) :
    ∃ (d : ActivityDiagram) (diagnostics : List Diagnostic), ofLines lines = .ok (d, diagnostics) ∧
      ∀ r ∈ d.edges, r.source ∈ d.visibleNodes.map ActivityNode.name ∧
        r.target ∈ d.visibleNodes.map ActivityNode.name := by
  obtain ⟨edges, found, joins⟩ := Flow.exists_edges lines
  refine ⟨_, _, ofLines_of_edges found, ?_⟩
  intro r member
  exact joins r.ends (List.mem_map_of_mem member)

end ActivityDiagram

/-- Whatever the kind and the lines, a diagram is read, and it refers to its own nodes only. -/
theorem Reader.closed_standard (kind : Kind) (lines : List Line) :
    ∃ (content : Content) (diagnostics : List Diagnostic),
      Reader.standard kind lines = .ok (content, diagnostics) ∧ content.kind = kind ∧
        content.Closed := by
  cases kind with
  | classes =>
      have linked := ClassDiagram.linked_ofLines lines
      exact ⟨_, _, rfl, rfl, linked.keyed, linked.joined, List.nil_subset _⟩
  | sequence =>
      have linked := SequenceDiagram.linked_ofLines lines
      exact ⟨_, _, rfl, rfl, linked.keyed, linked.joined, linked.known⟩
  | states =>
      have linked := StateDiagram.linked_ofLines lines
      exact ⟨_, _, rfl, rfl, linked.keyed, linked.joined, List.nil_subset _⟩
  | mindMap =>
      have linked := MindMap.linked_ofLines lines
      exact ⟨_, _, rfl, rfl, linked.keyed, linked.joined, List.nil_subset _⟩
  | entities =>
      have linked := EntityDiagram.linked_ofLines lines
      exact ⟨_, _, rfl, rfl, linked.keyed, linked.joined, List.nil_subset _⟩
  | deployment =>
      have linked := DeploymentDiagram.linked_ofLines lines
      exact ⟨_, _, rfl, rfl, linked.keyed, linked.joined, List.nil_subset _⟩
  | useCases =>
      have linked := UseCaseDiagram.linked_ofLines lines
      exact ⟨_, _, rfl, rfl, linked.keyed, linked.joined, List.nil_subset _⟩
  | activity =>
      obtain ⟨d, diagnostics, read, joined⟩ := ActivityDiagram.exists_ofLines lines
      refine ⟨.activity d, diagnostics, ?_, rfl, trivial, joined, List.nil_subset _⟩
      simp only [Reader.standard, read]

end DiagramMarkup
