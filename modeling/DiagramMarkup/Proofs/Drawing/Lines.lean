import DiagramMarkup.Drawio.Lines
import DiagramMarkup.Proofs.Success

/-! # Lines

A link is drawn as an edge between the cells of its ends, and behind it the texts beside it. Links are
drawn one after the other, behind all elements, and stand for no elements themselves.
-/

namespace DiagramMarkup

open Drawio

variable {α : Type}

namespace Drawio.Graph

/-- A graph with a line for one more link. -/
def Gains (g : Graph α) (link : Link α) (next : Graph α) : Prop :=
  ∃ (style : Style α) (source target : Nat) (points : List (Point α)) (texts : List (Cell α)),
    g.number link.source = .ok source ∧ g.number link.target = .ok target ∧
      (∀ cell ∈ texts, ∃ text position, cell = .edgeLabel text g.next position) ∧
        next = g.add (.edge (link.label.getD "") style source target points :: texts)

/-- A graph with a line for each of some more links. -/
inductive GainsAll : Graph α → List (Link α) → Graph α → Prop
  | nil {g : Graph α} : GainsAll g [] g
  | cons {g next last : Graph α} {link : Link α} {links : List (Link α)} (first : g.Gains link next)
      (rest : GainsAll next links last) : GainsAll g (link :: links) last

variable {g next : Graph α} {link : Link α} {links : List (Link α)}

theorem Gains.elements_eq (gains : g.Gains link next) : next.elements = g.elements := by
  obtain ⟨_, _, _, _, _, _, _, _, rfl⟩ := gains
  rfl

theorem GainsAll.elements_eq (gains : g.GainsAll links next) : next.elements = g.elements := by
  induction gains with
  | nil => rfl
  | cons first _ ih => exact ih.trans first.elements_eq

theorem GainsAll.number_eq (gains : g.GainsAll links next) (name : String) :
    next.number name = g.number name := by
  simp only [number, gains.elements_eq]

theorem GainsAll.kept (gains : g.GainsAll links next) : g.cells <+: next.cells := by
  induction gains with
  | nil => exact List.prefix_rfl
  | cons first _ ih =>
      obtain ⟨_, _, _, _, _, _, _, _, rfl⟩ := first
      exact (List.prefix_append _ _).trans ih

theorem getElem?_of_kept {index : Nat} {cell : Cell α} (kept : g.cells <+: next.cells)
    (here : g.cells[index]? = some cell) : next.cells[index]? = some cell := by
  obtain ⟨more, same⟩ := kept
  rw [← same, List.getElem?_append_left (List.getElem?_eq_some_iff.mp here).1]
  exact here

theorem gainsAll_foldlM {f : Graph α → Link α → Except LayoutFault (Graph α)}
    (each : ∀ g link, Ensures (g.Gains link) (f g link)) (links : List (Link α)) (g : Graph α) :
    Ensures (g.GainsAll links) (links.foldlM f g) := by
  induction links generalizing g with
  | nil => exact ensures_ok .nil
  | cons link links ih =>
      rw [List.foldlM_cons]
      exact (each g link).bind fun next first => (ih next).imp (.cons first)

end Drawio.Graph

open Drawio.Graph

variable [Scalar α] {l : Layout α}

namespace Link

theorem eq_edgeLabel_of_mem_endLabels (link : Link α) (number : Nat) :
    ∀ cell ∈ link.endLabels number, ∃ text position, cell = .edgeLabel text number position := by
  unfold endLabels
  split
  · exact fun _ member => absurd member List.not_mem_nil
  · refine List.forall_mem_append.mpr ⟨?_, ?_⟩
    · exact List.forall_mem_map.mpr fun text _ => ⟨text, _, rfl⟩
    · exact List.forall_mem_map.mpr fun text _ => ⟨text, _, rfl⟩

theorem gains_addLine (style : Link α → Style α) (g : Graph α) (link : Link α) :
    Ensures (g.Gains link) (addLine style g link) := by
  unfold addLine
  refine (ensures_found (g.number link.source)).bind fun first source => ?_
  refine (ensures_found (g.number link.target)).bind fun second target => ?_
  exact ensures_ok ⟨_, first, second, _, _, source, target,
    link.eq_edgeLabel_of_mem_endLabels g.next, rfl⟩

theorem gains_addMessage (t : Timeline α) (kind : MessageKind) (y : α) (g : Graph α)
    (link : Link α) : Ensures (g.Gains link) (addMessage l t link kind y g) := by
  have one_more {style : Style α} {first second : Nat} {points : List (Point α)}
      (source : g.number link.source = .ok first) (target : g.number link.target = .ok second) :
      g.Gains link (g.add [.edge (link.label.getD "") style first second points]) :=
    ⟨_, first, second, _, [], source, target, fun _ member => absurd member List.not_mem_nil, rfl⟩
  unfold addMessage
  refine (ensures_found (g.number link.source)).bind fun first source => ?_
  refine (ensures_found (g.number link.target)).bind fun second target => ?_
  dsimp only
  split
  · refine (ensures_found (l.require link.source)).bind fun box _ => ?_
    exact ensures_ok (one_more source target)
  · exact ensures_ok (one_more source target)

/-- Of the links of a conversation only messages are drawn. -/
theorem gainsAll_addMessages (t : Timeline α) (links : List (Link α)) (g : Graph α) :
    Ensures (g.GainsAll (links.filter fun link => link.message.isSome))
      (addMessages l t links g) := by
  unfold addMessages
  induction links generalizing g with
  | nil => exact ensures_ok .nil
  | cons link links ih =>
      rw [List.foldlM_cons, List.filter_cons]
      cases message : link.message with
      | none => exact ih g
      | some sent =>
          refine (gains_addMessage t sent.1 sent.2 g link).bind fun next first => ?_
          exact (ih next).imp (.cons first)

end Link

namespace Content

omit [Scalar α] in
/-- The links that are drawn as lines; in a conversation these are the messages. -/
def drawnLinks (links : List (Link α)) : Content → List (Link α)
  | sequence _ => links.filter fun link => link.message.isSome
  | _ => links

theorem gainsAll_addLinks (c : Content) (links : List (Link α)) (g : Graph α) :
    Ensures (g.GainsAll (c.drawnLinks links)) (c.addLinks l links g) := by
  have lines (style : Link α → Style α) :
      Ensures (g.GainsAll links) (links.foldlM (Link.addLine style) g) :=
    gainsAll_foldlM (Link.gains_addLine style) links g
  cases c with
  | sequence d =>
      unfold addLinks
      cases l.timeline with
      | none => exact fun _ none => nomatch none
      | some t => exact Link.gainsAll_addMessages t links g
  | classes d | states d | mindMap d | entities d | deployment d | useCases d | activity d =>
      exact lines _

end Content

end DiagramMarkup
