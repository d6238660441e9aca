import DiagramMarkup.Proofs.References.Nodes

/-! # Elements that endpoints mean

An endpoint in a use case diagram is looked up among the labels first and then among the names. So a
name that is taken stays taken, and an endpoint with it enters nothing, but it leads to the element of
that name only as long as no other element of its kind is labelled with the name.
-/

namespace DiagramMarkup.UseCaseDiagram

variable {first draft : Draft} {token : List Char} {name : String}

/-- The name that an endpoint is written with. -/
def writtenName (token : List Char) : String :=
  String.ofList (nameOfToken token).1

/-- An element that stands in for the one whose name is written: it has another name, and the written
one for its label. -/
def Shadows (node : UseCaseNode) (token : List Char) : Prop :=
  node.kind = (nameOfToken token).2 ∧ node.label = writtenName token ∧ node.name ≠ writtenName token

instance (node : UseCaseNode) (token : List Char) : Decidable (Shadows node token) :=
  inferInstanceAs (Decidable (_ ∧ _ ∧ _))

namespace Draft

/-- A draft and the drafts that a reading makes of it, line by line and endpoint by endpoint. -/
inductive LeadsTo : Draft → Draft → Prop
  | refl (draft : Draft) : LeadsTo draft draft
  | turn {first draft : Draft} (leads : LeadsTo first draft) (line : Line) (rest : List Line) :
      LeadsTo first (UseCaseDiagram.turn draft line rest).state
  | ensure {first draft : Draft} (leads : LeadsTo first draft) (token : List Char) :
      LeadsTo first (draft.ensure token).1

theorem leadsTo_readAll (first : Draft) (lines : List Line) :
    LeadsTo first (readAll UseCaseDiagram.turn first lines).1 :=
  readAll_invariant (P := LeadsTo first) (fun _ line rest leads => leads.turn line rest) (.refl first)
    lines

/-! ## What a reading keeps -/

theorem LeadsTo.isLinked (leads : LeadsTo first draft) (linked : first.IsLinked) : draft.IsLinked := by
  induction leads with
  | refl => exact linked
  | turn _ line rest ih => exact ih.turn line rest
  | ensure _ token ih => exact (ih.ensure token).1

theorem keys_subset_declare (draft : Draft) (name label : String) (kind : UseCaseKind) :
    draft.diagram.nodes.keys ⊆ (draft.declare name label kind).diagram.nodes.keys :=
  fun _ known => mem_declare.mpr (.inl known)

theorem keys_subset_ensure (draft : Draft) (token : List Char) :
    draft.diagram.nodes.keys ⊆ (draft.ensure token).1.diagram.nodes.keys := by
  unfold Draft.ensure
  dsimp only
  split
  · exact List.Subset.refl _
  · split
    · exact List.Subset.refl _
    · exact keys_subset_declare ..

theorem keys_subset_relate (draft : Draft) (arrow : Phrase.Arrow) :
    draft.diagram.nodes.keys ⊆ (draft.relate arrow).diagram.nodes.keys :=
  List.Subset.trans (keys_subset_ensure draft arrow.left) (keys_subset_ensure _ arrow.right)

theorem keys_subset_turn (draft : Draft) (line : Line) (rest : List Line) :
    draft.diagram.nodes.keys ⊆ (turn draft line rest).state.diagram.nodes.keys := by
  unfold UseCaseDiagram.turn
  dsimp only
  split
  · exact List.Subset.refl _
  · split
    · exact List.Subset.refl _
    · split
      · exact List.Subset.refl _
      · split
        · exact keys_subset_relate ..
        · split
          · exact keys_subset_declare ..
          · exact List.Subset.refl _

theorem LeadsTo.keys_subset (leads : LeadsTo first draft) :
    first.diagram.nodes.keys ⊆ draft.diagram.nodes.keys := by
  induction leads with
  | refl => exact List.Subset.refl _
  | turn _ line rest ih => exact List.Subset.trans ih (keys_subset_turn _ line rest)
  | ensure _ token ih => exact List.Subset.trans ih (keys_subset_ensure _ token)

/-! ## How an endpoint is resolved -/

theorem ensure_eq (draft : Draft) (token : List Char) :
    draft.ensure token =
      match draft.diagram.nodes.values.find? (fun node => Shadows node token) with
      | some node => (draft, node.name)
      | none =>
        if draft.diagram.nodes.contains (writtenName token) then (draft, writtenName token)
        else
          (draft.declare (writtenName token)
            (String.ofList (Text.unescapeBreaks (nameOfToken token).1)) (nameOfToken token).2,
              writtenName token) := by
  have same (node : UseCaseNode) : decide (Shadows node token) =
      (node.kind = (nameOfToken token).2 && node.label = String.ofList (nameOfToken token).1 &&
        node.name ≠ String.ofList (nameOfToken token).1) := by
    rw [Bool.eq_iff_iff, decide_eq_true_iff]
    simp only [Bool.and_eq_true, decide_eq_true_eq, and_assoc]
    exact Iff.rfl
  simp only [same]
  rfl

/-- The first element that stands in for another one answers for it. -/
theorem ensure_of_shadows {before behind : List UseCaseNode} {node : UseCaseNode}
    (split : draft.diagram.nodes.values = before ++ node :: behind) (shadows : Shadows node token)
    (earlier : ∀ other ∈ before, ¬ Shadows other token) :
    draft.ensure token = (draft, node.name) := by
  have found : draft.diagram.nodes.values.find? (fun node => Shadows node token) = some node :=
    List.find?_eq_some_iff_append.mpr ⟨decide_eq_true shadows, before, behind, split,
      fun other member => by simpa using earlier other member⟩
  rw [ensure_eq, found]

theorem ensure_of_known (known : writtenName token ∈ draft.diagram.nodes.keys)
    (plain : ∀ node ∈ draft.diagram.nodes.values, ¬ Shadows node token) :
    draft.ensure token = (draft, writtenName token) := by
  have none : draft.diagram.nodes.values.find? (fun node => Shadows node token) = none :=
    List.find?_eq_none.mpr fun node member => by simpa using plain node member
  rw [ensure_eq, none]
  exact if_pos (Table.contains_iff.mpr known)

theorem ensure_of_new (new : writtenName token ∉ draft.diagram.nodes.keys)
    (plain : ∀ node ∈ draft.diagram.nodes.values, ¬ Shadows node token) :
    draft.ensure token = (draft.declare (writtenName token)
      (String.ofList (Text.unescapeBreaks (nameOfToken token).1)) (nameOfToken token).2,
        writtenName token) := by
  have none : draft.diagram.nodes.values.find? (fun node => Shadows node token) = none :=
    List.find?_eq_none.mpr fun node member => by simpa using plain node member
  rw [ensure_eq, none]
  exact if_neg fun known => new (Table.contains_iff.mp known)

/-- An endpoint with a name that is taken enters nothing. -/
theorem ensure_cases (known : writtenName token ∈ draft.diagram.nodes.keys) :
    (∀ node ∈ draft.diagram.nodes.values, ¬ Shadows node token) ∧
        draft.ensure token = (draft, writtenName token) ∨
      ∃ node ∈ draft.diagram.nodes.values, Shadows node token ∧
        draft.ensure token = (draft, node.name) := by
  cases found : draft.diagram.nodes.values.find? (fun node => Shadows node token) with
  | none =>
      have plain : ∀ node ∈ draft.diagram.nodes.values, ¬ Shadows node token := fun node member =>
        by simpa using List.find?_eq_none.mp found node member
      exact .inl ⟨plain, ensure_of_known known plain⟩
  | some node =>
      have shadows := List.find?_some found
      refine .inr ⟨node, List.mem_of_find?_eq_some found, of_decide_eq_true shadows, ?_⟩
      rw [ensure_eq, found]

/-- However a reading goes on, an endpoint with a name that was taken enters nothing. It leads to the
element of that name just where no other one stands in for it, and else to the first one that does. -/
theorem LeadsTo.ensure_of_taken (start : LeadsTo {} first) (leads : LeadsTo first draft)
    (taken : writtenName token ∈ first.diagram.nodes.keys) :
    (draft.ensure token).1 = draft ∧ (draft.ensure token).2 ∈ draft.diagram.nodes.keys ∧
      ((draft.ensure token).2 = writtenName token ↔
        ∀ node ∈ draft.diagram.nodes.values, ¬ Shadows node token) ∧
      ∀ before node behind, draft.diagram.nodes.values = before ++ node :: behind →
        Shadows node token → (∀ other ∈ before, ¬ Shadows other token) →
          (draft.ensure token).2 = node.name := by
  have linked : draft.IsLinked := leads.isLinked (start.isLinked .empty)
  have known : writtenName token ∈ draft.diagram.nodes.keys := leads.keys_subset taken
  have unchanged : (draft.ensure token).1 = draft := by
    rcases ensure_cases known with ⟨_, same⟩ | ⟨_, _, _, same⟩ <;> rw [same]
  have answer := (linked.ensure token).2.1
  rw [unchanged] at answer
  refine ⟨unchanged, answer, ?_, ?_⟩
  · rcases ensure_cases known with ⟨plain, same⟩ | ⟨node, member, shadows, same⟩
    · exact iff_of_true (congrArg Prod.snd same) plain
    · rw [same]
      exact iff_of_false shadows.2.2 fun plain => plain node member shadows
  · intro before node behind split shadows earlier
    rw [ensure_of_shadows split shadows earlier]

/-- A use case keeps its name although an actor is labelled with it. -/
theorem ensure_of_taken_beside_actor :
    ∃ first draft : Draft, LeadsTo {} first ∧ LeadsTo first draft ∧
      writtenName "(Start)".toList ∈ first.diagram.nodes.keys ∧
      draft.diagram.nodes.values.map UseCaseNode.label = ["Start", "Start"] ∧
      draft.ensure "(Start)".toList = (draft, "Start") := by
  let first := (readAll UseCaseDiagram.turn {} [⟨1, "(Start)"⟩]).1
  let draft := (readAll UseCaseDiagram.turn first [⟨2, "actor \"Start\" as S"⟩]).1
  have start : LeadsTo {} first := leadsTo_readAll ..
  have leads : LeadsTo first draft := leadsTo_readAll ..
  have taken : writtenName "(Start)".toList ∈ first.diagram.nodes.keys := by decide +kernel
  have plain : ∀ node ∈ draft.diagram.nodes.values, ¬ Shadows node "(Start)".toList := by
    decide +kernel
  obtain ⟨same, _, answers, _⟩ := start.ensure_of_taken leads taken
  exact ⟨first, draft, start, leads, taken, by decide +kernel, Prod.ext same (answers.mpr plain)⟩

/-- A use case that was entered is missed by the endpoint with its name, because an earlier one is
labelled with it. So is an actor, by its bare name. -/
theorem ensure_shadowed :
    (∃ draft, readAll UseCaseDiagram.turn {} [⟨1, "(Login) as L"⟩, ⟨2, "(Login)"⟩] = (draft, []) ∧
      draft.diagram.nodes.keys = ["L", "Login"] ∧ draft.ensure "(Login)".toList = (draft, "L")) ∧
    ∃ draft, readAll UseCaseDiagram.turn {} [⟨1, "actor \"Bob\" as B"⟩, ⟨2, "actor Bob"⟩] =
        (draft, []) ∧
      draft.diagram.nodes.keys = ["B", "Bob"] ∧ draft.ensure "Bob".toList = (draft, "B") := by
  refine ⟨⟨(readAll UseCaseDiagram.turn {} [⟨1, "(Login) as L"⟩, ⟨2, "(Login)"⟩]).1, ?_⟩,
    (readAll UseCaseDiagram.turn {} [⟨1, "actor \"Bob\" as B"⟩, ⟨2, "actor Bob"⟩]).1, ?_⟩
  · decide +kernel
  · decide +kernel

end Draft

end DiagramMarkup.UseCaseDiagram
