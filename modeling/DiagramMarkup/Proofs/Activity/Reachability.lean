import DiagramMarkup.Proofs.Activity.ControlFlow
import Mathlib.Logic.Relation

/-! # Reachability in activities

Where no node is a stop, control can get from the first node to every node that is drawn, and from each
of these to the last one. Both are shown along the nesting tree, for blocks that are followed by a node
or by nothing.
-/

namespace DiagramMarkup

open ActivityDiagram Nesting

namespace Flow

/-- Control can get from one node to another along some edges, each given by its two ends. -/
def Reaches (pairs : List (String × String)) : String → String → Prop :=
  Relation.ReflTransGen fun source target => (source, target) ∈ pairs

/-- No node is a stop. -/
def Endless (nodes : List ActivityNode) : Prop :=
  ∀ node ∈ nodes, node.kind ≠ .stop

variable {pairs : List (String × String)} {nodes : List ActivityNode} {start goal name : String}
  {kind : FrameKind} {after : Option String}

theorem Reaches.along {targets : List String} {target : String} (reached : Reaches pairs start name)
    (leads : leads name targets ⊆ pairs) (member : target ∈ targets) : Reaches pairs start target :=
  reached.tail (leads (List.mem_map_of_mem member))

theorem Reaches.first {targets : List String} {target : String} (leads : leads name targets ⊆ pairs)
    (member : target ∈ targets) (reaches : Reaches pairs target goal) : Reaches pairs name goal :=
  .head (leads (List.mem_map_of_mem member)) reaches

/-! ## The parts of a tree -/

@[simp] theorem endless_cons {node : ActivityNode} :
    Endless (node :: nodes) ↔ node.kind ≠ .stop ∧ Endless nodes :=
  List.forall_mem_cons

@[simp] theorem endless_append {behind : List ActivityNode} :
    Endless (nodes ++ behind) ↔ Endless nodes ∧ Endless behind :=
  List.forall_mem_append

theorem drawn_block_simple {node : ActivityNode} {rest : Block} (fits : (Block.simple node rest).Fits) :
    drawn (Block.simple node rest).nodes = node.name :: drawn rest.nodes :=
  drawn_cons_node (congrArg Role.isSeparator fits.1)

theorem drawn_block_construct {opener last : ActivityNode} {first rest : Block} {others : Branches}
    (fits : (Block.construct kind opener first others last rest).Fits) :
    drawn (Block.construct kind opener first others last rest).nodes =
      opener.name :: (drawn first.nodes ++ (drawn others.nodes ++ last.name :: drawn rest.nodes)) := by
  rw [Block.nodes, drawn_cons_node (congrArg Role.isSeparator fits.1), drawn_append, drawn_append,
    drawn_cons_node (congrArg Role.isSeparator fits.2.2.2.1)]

theorem drawn_branch {marker : ActivityNode} {block : Block} {rest : Branches}
    (fits : (Branches.branch marker block rest).Fits kind) :
    drawn (Branches.branch marker block rest).nodes = drawn block.nodes ++ drawn rest.nodes := by
  rw [Branches.nodes, drawn_cons_marker (congrArg Role.isSeparator fits.1), drawn_append]

theorem eq_done_of_loop {others : Branches} (fits : others.Fits .loop) : others = .done := by
  cases others with
  | done => rfl
  | branch marker block rest =>
      have separates := fits.1
      unfold ActivityNode.role ActivityNode.branching at separates
      cases kind : marker.kind <;> simp [kind] at separates

theorem exists_entry (block : Block) (after : String) :
    ∃ name, block.entry (some after) = some name := by
  cases block with
  | done => exact ⟨after, rfl⟩
  | simple node rest => exact ⟨node.name, rfl⟩
  | construct kind opener first others last rest => exact ⟨opener.name, rfl⟩

theorem flow_construct_subset {opener last : ActivityNode} {first rest : Block} {others : Branches} :
    (Block.construct kind opener first others last rest).flow after ⊆ pairs ↔
      leads opener.name (openerTargets kind first others last.name (rest.entry after)) ⊆ pairs ∧
        first.flow (some last.name) ⊆ pairs ∧ others.flow (some last.name) ⊆ pairs ∧
          leads last.name (if kind = .loop then [opener.name] else (rest.entry after).toList) ⊆ pairs ∧
            rest.flow after ⊆ pairs := by
  simp only [Block.flow, List.append_subset]

/-! ## From the first node -/

theorem entry_subset_openerTargets (kind : FrameKind) (first : Block) (others : Branches)
    (last : String) (next : Option String) :
    (first.entry (some last)).toList ⊆ openerTargets kind first others last next := by
  unfold openerTargets
  cases kind with
  | loop | fork => exact List.subset_append_left _ _
  | conditional =>
      dsimp only
      split
      · exact List.subset_append_left _ _
      · exact List.subset_append_of_subset_left _ (List.subset_append_left _ _)

theorem entries_subset_openerTargets {others : Branches} (fits : others.Fits kind) (first : Block)
    (last : String) (next : Option String) :
    others.entries (some last) ⊆ openerTargets kind first others last next := by
  cases kind with
  | loop =>
      cases eq_done_of_loop fits
      exact List.nil_subset _
  | fork => exact List.subset_append_right _ _
  | conditional =>
      unfold openerTargets
      dsimp only
      split
      · exact List.subset_append_right _ _
      · exact List.subset_append_of_subset_left _ (List.subset_append_right _ _)

/-- A construct whose opener and closing node are reached is left: a loop from its opener, any other one
from its closing node. -/
theorem reached_next {opener last : String} {first : Block} {others : Branches}
    {next : Option String}
    (opens : leads opener (openerTargets kind first others last next) ⊆ pairs)
    (closes : leads last (if kind = .loop then [opener] else next.toList) ⊆ pairs)
    (atOpener : Reaches pairs start opener) (atLast : Reaches pairs start last) :
    ∀ name ∈ next, Reaches pairs start name := by
  intro name member
  have here : name ∈ next.toList := Option.mem_toList.mpr member
  by_cases loops : kind = .loop
  · subst loops
    exact atOpener.along opens (List.mem_append_right _ here)
  · rw [if_neg loops] at closes
    exact atLast.along closes here

mutual
/-- Where a block is entered, all of its nodes are reached, and what follows it. -/
theorem reached_block : ∀ (block : Block) {after : Option String}, block.Fits →
    Endless block.nodes → block.flow after ⊆ pairs →
      (∀ name ∈ block.entry after, Reaches pairs start name) →
        (∀ name ∈ drawn block.nodes, Reaches pairs start name) ∧
          ∀ name ∈ after, Reaches pairs start name
  | .done, _, _, _, _, enters => ⟨fun _ member => absurd member List.not_mem_nil, enters⟩
  | .simple node rest, after, fits, endless, inside, enters => by
      obtain ⟨moves, endless⟩ := endless_cons.mp endless
      simp only [Block.flow, if_neg moves, List.append_subset] at inside
      have here := enters node.name rfl
      have next : ∀ name ∈ rest.entry after, Reaches pairs start name := fun name member =>
        here.along inside.1 (Option.mem_toList.mpr member)
      obtain ⟨behind, leaves⟩ := reached_block rest fits.2 endless inside.2 next
      rw [drawn_block_simple fits]
      exact ⟨List.forall_mem_cons.mpr ⟨here, behind⟩, leaves⟩
  | .construct kind opener first others last rest, after, fits, endless, inside, enters => by
      rw [drawn_block_construct fits]
      obtain ⟨_, firstFits, othersFit, _, restFits⟩ := fits
      simp only [Block.nodes, endless_cons, endless_append] at endless
      obtain ⟨_, inFirst, inOthers, _, inRest⟩ := endless
      obtain ⟨opens, flowFirst, flowOthers, closes, flowRest⟩ := flow_construct_subset.mp inside
      have atOpener := enters opener.name rfl
      obtain ⟨atFirst, atLast⟩ := reached_block first firstFits inFirst flowFirst fun name member =>
        atOpener.along opens <| entry_subset_openerTargets kind first others last.name _ <|
          Option.mem_toList.mpr member
      have atLast := atLast last.name rfl
      have atOthers := reached_branches others othersFit inOthers flowOthers fun name member =>
        atOpener.along opens (entries_subset_openerTargets othersFit first last.name _ member)
      obtain ⟨atRest, leaves⟩ := reached_block rest restFits inRest flowRest
        (reached_next opens closes atOpener atLast)
      simp only [List.forall_mem_cons, List.forall_mem_append]
      exact ⟨⟨atOpener, atFirst, atOthers, atLast, atRest⟩, leaves⟩

theorem reached_branches : ∀ (others : Branches) {kind : FrameKind} {after : Option String},
    others.Fits kind → Endless others.nodes → others.flow after ⊆ pairs →
      (∀ name ∈ others.entries after, Reaches pairs start name) →
        ∀ name ∈ drawn others.nodes, Reaches pairs start name
  | .done, _, _, _, _, _, _ => fun _ member => absurd member List.not_mem_nil
  | .branch marker block rest, kind, after, fits, endless, inside, enters => by
      rw [drawn_branch fits]
      simp only [Branches.nodes, endless_cons, endless_append] at endless
      simp only [Branches.flow, List.append_subset] at inside
      simp only [Branches.entries, List.forall_mem_append] at enters
      have atBlock := (reached_block block fits.2.1 endless.2.1 inside.1 fun name member =>
        enters.1 name (Option.mem_toList.mpr member)).1
      have atRest := reached_branches rest fits.2.2 endless.2.2 inside.2 enters.2
      exact List.forall_mem_append.mpr ⟨atBlock, atRest⟩
end

/-! ## To the last node -/

/-- What follows some nodes gets to the goal; where nothing follows, the last of them is the goal. -/
structure LeadsTo (pairs : List (String × String)) (nodes : List ActivityNode)
    (after : Option String) (goal : String) : Prop where
  onward : ∀ name ∈ after, Reaches pairs name goal
  ends : after = none → ∀ last ∈ nodes.getLast?, last.name = goal

theorem LeadsTo.behind (front : List ActivityNode) (leads : LeadsTo pairs (front ++ nodes) after goal) :
    LeadsTo pairs nodes after goal where
  onward := leads.onward
  ends none last member := leads.ends none last (by simp_all)

/-- Where a block is entered, a node that is drawn comes next, or what follows the block. -/
theorem LeadsTo.entry {block : Block} (leads : LeadsTo pairs block.nodes after goal) (fits : block.Fits)
    (reaches : ∀ name ∈ drawn block.nodes, Reaches pairs name goal) :
    ∀ name ∈ block.entry after, Reaches pairs name goal := by
  intro name member
  have known := entry_subset fits (List.subset_append_left (drawn block.nodes) after.toList)
    (List.subset_append_right _ _) (Option.mem_toList.mpr member)
  rcases List.mem_append.mp known with here | behind
  · exact reaches name here
  · exact leads.onward name (Option.mem_toList.mp behind)

/-- A node that is followed by a block gets to the goal: into the block, or it is the goal itself. -/
theorem LeadsTo.reaches {node : ActivityNode} {rest : Block}
    (ends : LeadsTo pairs (node :: rest.nodes) after goal)
    (next : ∀ name ∈ rest.entry after, Reaches pairs name goal)
    (onward : ∀ name ∈ rest.entry after, Reaches pairs name goal → Reaches pairs node.name goal) :
    Reaches pairs node.name goal := by
  cases entry : rest.entry after with
  | some name => exact onward name entry (next name entry)
  | none =>
      cases rest with
      | simple | construct => cases entry
      | done =>
          rw [ends.ends entry node rfl]
          exact .refl

mutual
/-- All nodes of a block get to the goal. -/
theorem reaches_block : ∀ (block : Block) {after : Option String}, block.Fits →
    Endless block.nodes → block.flow after ⊆ pairs → LeadsTo pairs block.nodes after goal →
      ∀ name ∈ drawn block.nodes, Reaches pairs name goal
  | .done, _, _, _, _, _ => fun _ member => absurd member List.not_mem_nil
  | .simple node rest, after, fits, endless, inside, leads => by
      obtain ⟨moves, endless⟩ := endless_cons.mp endless
      simp only [Block.flow, if_neg moves, List.append_subset] at inside
      have behind : LeadsTo pairs rest.nodes after goal := .behind [node] leads
      have atRest := reaches_block rest fits.2 endless inside.2 behind
      have here := leads.reaches (behind.entry fits.2 atRest) fun name member =>
        Reaches.first inside.1 (Option.mem_toList.mpr member)
      rw [drawn_block_simple fits]
      exact List.forall_mem_cons.mpr ⟨here, atRest⟩
  | .construct kind opener first others last rest, after, fits, endless, inside, leads => by
      rw [drawn_block_construct fits]
      obtain ⟨_, firstFits, othersFit, _, restFits⟩ := fits
      simp only [Block.nodes, endless_cons, endless_append] at endless
      obtain ⟨_, inFirst, inOthers, _, inRest⟩ := endless
      obtain ⟨opens, flowFirst, flowOthers, closes, flowRest⟩ := flow_construct_subset.mp inside
      have behindOthers : LeadsTo pairs (last :: rest.nodes) after goal :=
        .behind (opener :: (first.nodes ++ others.nodes)) (by
          simpa [Block.nodes] using leads)
      have behindLast : LeadsTo pairs rest.nodes after goal :=
        .behind [last] behindOthers
      have atRest := reaches_block rest restFits inRest flowRest behindLast
      have atLast : Reaches pairs last.name goal := by
        refine behindOthers.reaches (behindLast.entry restFits atRest) fun name member reaches => ?_
        have next : name ∈ (rest.entry after).toList := Option.mem_toList.mpr member
        -- The closing node of a loop goes back to its opener, from which the loop is left.
        by_cases loops : kind = .loop
        · subst loops
          exact Reaches.first closes List.mem_cons_self
            (Reaches.first opens (List.mem_append_right _ next) reaches)
        · rw [if_neg loops] at closes
          exact Reaches.first closes next reaches
      have toLast {part : List ActivityNode} : LeadsTo pairs part (some last.name) goal :=
        ⟨fun name member => Option.some.inj member ▸ atLast, fun none => nomatch none⟩
      have atFirst := reaches_block first firstFits inFirst flowFirst toLast
      have atOthers := reaches_branches others othersFit inOthers flowOthers toLast
      obtain ⟨name, entry⟩ := exists_entry first last.name
      have atOpener := Reaches.first opens
        (entry_subset_openerTargets kind first others last.name _ (Option.mem_toList.mpr entry))
        (toLast.entry firstFits atFirst name entry)
      simp only [List.forall_mem_cons, List.forall_mem_append]
      exact ⟨atOpener, atFirst, atOthers, atLast, atRest⟩

theorem reaches_branches : ∀ (others : Branches) {kind : FrameKind} {after : String},
    others.Fits kind → Endless others.nodes → others.flow (some after) ⊆ pairs →
      (∀ {part : List ActivityNode}, LeadsTo pairs part (some after) goal) →
        ∀ name ∈ drawn others.nodes, Reaches pairs name goal
  | .done, _, _, _, _, _, _ => fun _ member => absurd member List.not_mem_nil
  | .branch marker block rest, kind, after, fits, endless, inside, leads => by
      rw [drawn_branch fits]
      simp only [Branches.nodes, endless_cons, endless_append] at endless
      simp only [Branches.flow, List.append_subset] at inside
      have atBlock := reaches_block block fits.2.1 endless.2.1 inside.1 leads
      have atRest := reaches_branches rest fits.2.2 endless.2.2 inside.2 leads
      exact List.forall_mem_append.mpr ⟨atBlock, atRest⟩
end

/-! ## Whole activities -/

/-- Every node that is drawn lies on a way from the first node to the last one. -/
structure Connected (nodes : List ActivityNode) (edges : List Relation) (first last : ActivityNode) :
    Prop where
  fromFirst : ∀ node ∈ nodes, node.isMarker = false →
    Reaches (edges.map Relation.ends) first.name node.name
  toLast : ∀ node ∈ nodes, node.isMarker = false →
    Reaches (edges.map Relation.ends) node.name last.name

theorem mem_drawn {node : ActivityNode} (member : node ∈ nodes) (visible : node.isMarker = false) :
    node.name ∈ drawn nodes :=
  List.mem_map_of_mem (List.mem_filter.mpr ⟨member, by rw [visible]; rfl⟩)

theorem entry_eq_head? (block : Block) :
    block.entry none = block.nodes.head?.map ActivityNode.name := by
  cases block <;> rfl

/-- Whatever the lines are, if they give some nodes and none of these is a stop, then no node is out of
reach and none is a dead end. -/
theorem connected_draftOfLines (lines : List Line) (notEmpty : (draftOfLines lines).1.nodes ≠ [])
    (endless : ∀ node ∈ (draftOfLines lines).1.nodes, node.kind ≠ .stop) :
    ∃ found first last, edges (draftOfLines lines).1.nodes = .ok found ∧
      (draftOfLines lines).1.nodes.head? = some first ∧ first.name = "a0" ∧
        (draftOfLines lines).1.nodes.getLast? = some last ∧
          Connected (draftOfLines lines).1.nodes found first last := by
  have nested := nested_draftOfLines lines
  obtain ⟨block, fits, same⟩ := exists_tree nested.scanned
  rw [← same] at nested notEmpty endless ⊢
  obtain ⟨found, given, ends⟩ := gives_tree nested fits
  obtain ⟨first, isFirst⟩ : ∃ first, block.nodes.head? = some first :=
    ⟨_, List.head?_eq_some_head notEmpty⟩
  obtain ⟨last, isLast⟩ : ∃ last, block.nodes.getLast? = some last :=
    ⟨_, List.getLast?_eq_some_getLast notEmpty⟩
  have named : first.name = "a0" := nested.name_eq (List.head?_eq_getElem?.symm.trans isFirst)
  have inside : block.flow none ⊆ found.map Relation.ends := fun pair member => (ends pair).mpr member
  have enters : ∀ name ∈ block.entry none, Reaches (found.map Relation.ends) first.name name := by
    intro name member
    rw [entry_eq_head?, isFirst, Option.map_some, Option.mem_some_iff] at member
    rw [member]
    exact .refl
  have leads : LeadsTo (found.map Relation.ends) block.nodes none last.name :=
    { onward := fun name none => nomatch none
      ends := fun _ other member => congrArg ActivityNode.name (Option.mem_unique member isLast) }
  have reached := (reached_block block fits endless inside enters).1
  have reaches := reaches_block block fits endless inside leads
  exact ⟨found, first, last, given, isFirst, named, isLast,
    { fromFirst := fun node member visible => reached node.name (mem_drawn member visible)
      toLast := fun node member visible => reaches node.name (mem_drawn member visible) }⟩

/-- A fork with a loop in its second branch and a conditional without a branch in the loop, none of
which is closed by a line. -/
def unclosedLines : List Line :=
  [⟨1, "fork"⟩, ⟨2, ":a;"⟩, ⟨3, "fork again"⟩, ⟨4, "while (b)"⟩, ⟨5, "if (c) then"⟩]

theorem connected_unclosedLines :
    (draftOfLines unclosedLines).1.nodes ≠ [] ∧
      (∀ node ∈ (draftOfLines unclosedLines).1.nodes, node.kind ≠ .stop) ∧
        ∃ found first last, edges (draftOfLines unclosedLines).1.nodes = .ok found ∧
          (draftOfLines unclosedLines).1.nodes.head? = some first ∧ first.name = "a0" ∧
            (draftOfLines unclosedLines).1.nodes.getLast? = some last ∧
              Connected (draftOfLines unclosedLines).1.nodes found first last := by
  have notEmpty : (draftOfLines unclosedLines).1.nodes ≠ [] := by decide +kernel
  have endless : ∀ node ∈ (draftOfLines unclosedLines).1.nodes, node.kind ≠ .stop := by
    decide +kernel
  exact ⟨notEmpty, endless, connected_draftOfLines unclosedLines notEmpty endless⟩

end Flow

end DiagramMarkup
