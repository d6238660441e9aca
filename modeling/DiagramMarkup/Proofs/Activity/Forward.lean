import DiagramMarkup.Proofs.Activity.ControlFlow

/-! # Where control goes back

Control leads from every node to nodes behind it. Only at the end of a loop it goes back, from the merge
of the loop to its decision.
-/

namespace DiagramMarkup

open ActivityDiagram Nesting

namespace ActivityNode

variable {node : ActivityNode}

theorem kind_of_closes_loop (closes : node.role = .closes .loop) :
    node.kind = .merge ∧ node.looping = true := by
  unfold role branching at closes
  cases kind : node.kind <;> cases looping : node.looping <;> simp [kind, looping] at closes ⊢

theorem kind_of_opens_loop (opens : node.role = .opens .loop) : node.kind = .decision := by
  unfold role at opens
  cases kind : node.kind <;> simp [kind] at opens ⊢

end ActivityNode

namespace Flow

/-- One node is the merge of a loop, and the other one is the decision of that loop. -/
def LoopsBack (nodes : List ActivityNode) (source target : String) : Prop :=
  ∃ merge ∈ nodes, ∃ decision ∈ nodes, merge.kind = .merge ∧ merge.looping = true ∧
    decision.kind = .decision ∧ merge.opener = some decision.name ∧ merge.name = source ∧
      decision.name = target

/-- Every pair leads forward along some names, or back to the decision of a loop. -/
def Forward (nodes : List ActivityNode) (names : List String) (pairs : List (String × String)) :
    Prop :=
  ∀ pair ∈ pairs, [pair.1, pair.2].Sublist names ∨ LoopsBack nodes pair.1 pair.2

variable {nodes : List ActivityNode} {names behind targets : List String}
  {pairs more : List (String × String)} {name : String}

theorem Forward.append (first : Forward nodes names pairs) (second : Forward nodes names more) :
    Forward nodes names (pairs ++ more) :=
  List.forall_mem_append.mpr ⟨first, second⟩

/-- What leads to names behind its own leads forward. -/
theorem forward_leads (follows : (name :: behind).Sublist names) (subset : targets ⊆ behind) :
    Forward nodes names (leads name targets) := by
  intro pair member
  obtain ⟨target, here, rfl⟩ := List.mem_map.mp member
  exact .inl (((List.singleton_sublist.mpr (subset here)).cons_cons name).trans follows)

theorem forward_loop {opener last : ActivityNode} (opens : opener.role = .opens .loop)
    (closes : last.role = .closes .loop) (owner : last.opener = some opener.name)
    (first : opener ∈ nodes) (second : last ∈ nodes) :
    Forward nodes names (leads last.name [opener.name]) := by
  intro pair member
  obtain ⟨target, here, rfl⟩ := List.mem_map.mp member
  cases List.mem_singleton.mp here
  obtain ⟨merge, looping⟩ := last.kind_of_closes_loop closes
  exact .inr ⟨last, second, opener, first, merge, looping, opener.kind_of_opens_loop opens, owner,
    rfl, rfl⟩

mutual
/-- The flow of a block leads forward along the names that are drawn, and to what follows them. -/
theorem forward_block : ∀ (block : Block) {after : Option String}, block.Fits → block.Bound →
    block.nodes ⊆ nodes → (drawn block.nodes ++ after.toList).Sublist names →
      Forward nodes names (block.flow after)
  | .done, _, _, _, _, _ => fun _ member => absurd member List.not_mem_nil
  | .simple node rest, after, ⟨role, fits⟩, bound, subset, follows => by
      rw [Block.nodes, drawn_cons_node (congrArg Role.isSeparator role), List.cons_append] at follows
      have later := forward_block rest fits bound (List.cons_subset.mp subset).2
        (List.sublist_of_cons_sublist follows)
      refine (forward_leads follows ?_).append later
      split
      · exact List.nil_subset _
      · exact entry_subset fits (List.subset_append_left _ _) (List.subset_append_right _ _)
  | .construct kind opener first others last rest, after,
      ⟨opens, firstFits, othersFit, closes, fits⟩, ⟨firstBound, othersBound, owner, bound⟩, subset,
      follows => by
      rw [Block.nodes, List.cons_subset, List.append_subset, List.append_subset, List.cons_subset]
        at subset
      obtain ⟨knownOpener, knownFirst, knownOthers, knownLast, knownRest⟩ := subset
      rw [Block.nodes, drawn_cons_node (congrArg Role.isSeparator opens), drawn_append, drawn_append,
        drawn_cons_node (congrArg Role.isSeparator closes), List.cons_append, List.append_assoc,
        List.append_assoc, List.cons_append] at follows
      have inside := List.sublist_of_cons_sublist follows
      have fromOthers := (List.sublist_append_right _ _).trans inside
      have fromLast := (List.sublist_append_right _ _).trans fromOthers
      have toLast : [last.name].Sublist (last.name :: (drawn rest.nodes ++ after.toList)) :=
        List.singleton_sublist.mpr List.mem_cons_self
      have inFirst : Forward nodes names (first.flow (some last.name)) :=
        forward_block first firstFits firstBound knownFirst
          (((List.Sublist.refl _).append (toLast.trans (List.sublist_append_right _ _))).trans inside)
      have inOthers : Forward nodes names (others.flow (some last.name)) :=
        forward_branches others othersFit othersBound knownOthers
          (((List.Sublist.refl _).append toLast).trans fromOthers)
      have inRest : Forward nodes names (rest.flow after) :=
        forward_block rest fits bound knownRest (List.sublist_of_cons_sublist fromLast)
      have next : (rest.entry after).toList ⊆ drawn rest.nodes ++ after.toList :=
        entry_subset fits (List.subset_append_left _ _) (List.subset_append_right _ _)
      refine (forward_leads follows ?enters).append
        (inFirst.append (inOthers.append (Forward.append ?leaves inRest)))
      case enters =>
        rw [← List.append_assoc]
        have closing : last.name ∈ drawn first.nodes ++ drawn others.nodes ++
            last.name :: (drawn rest.nodes ++ after.toList) :=
          List.mem_append_right _ List.mem_cons_self
        have after_last : (some last.name).toList ⊆ drawn first.nodes ++ drawn others.nodes ++
            last.name :: (drawn rest.nodes ++ after.toList) :=
          List.cons_subset.mpr ⟨closing, List.nil_subset _⟩
        refine openerTargets_subset kind ?_ ?_ closing ?_
        · exact entry_subset firstFits (List.subset_append_of_subset_left _
            (List.subset_append_left _ _)) after_last
        · exact entries_subset othersFit (List.subset_append_of_subset_left _
            (List.subset_append_right _ _)) after_last
        · exact List.subset_append_of_subset_right _ (List.subset_cons_of_subset _ next)
      case leaves =>
        split
        · next loops =>
          subst loops
          exact forward_loop opens closes owner knownOpener knownLast
        · exact forward_leads fromLast next

theorem forward_branches {kind : FrameKind} {opener : String} :
    ∀ (others : Branches) {after : Option String}, others.Fits kind → others.Bound opener →
      others.nodes ⊆ nodes → (drawn others.nodes ++ after.toList).Sublist names →
        Forward nodes names (others.flow after)
  | .done, _, _, _, _, _ => fun _ member => absurd member List.not_mem_nil
  | .branch marker block rest, after, ⟨separates, fits, restFits⟩, ⟨_, bound, restBound⟩, subset,
      follows => by
      rw [Branches.nodes, List.cons_subset, List.append_subset] at subset
      rw [Branches.nodes, drawn_cons_marker (congrArg Role.isSeparator separates), drawn_append,
        List.append_assoc] at follows
      have inBlock : Forward nodes names (block.flow after) :=
        forward_block block fits bound subset.2.1
          (((List.Sublist.refl _).append (List.sublist_append_right _ _)).trans follows)
      have inRest : Forward nodes names (rest.flow after) :=
        forward_branches rest restFits restBound subset.2.2
          ((List.sublist_append_right _ _).trans follows)
      exact inBlock.append inRest
end

/-- Whatever the lines are, the edges are found, and they lead forward among the nodes that are drawn or
back to the decision of a loop. -/
theorem forward_draftOfLines (lines : List Line) :
    ∃ found, edges (draftOfLines lines).1.nodes = .ok found ∧
      Forward (draftOfLines lines).1.nodes (drawn (draftOfLines lines).1.nodes)
        (found.map Relation.ends) := by
  have nested := nested_draftOfLines lines
  obtain ⟨block, fits, same⟩ := exists_tree nested.scanned
  rw [← same] at nested ⊢
  obtain ⟨found, given, ends⟩ := gives_tree nested fits
  have bound := bound_of_scan fits nested.scanned
  have forward : Forward block.nodes (drawn block.nodes) (block.flow none) :=
    forward_block block fits bound (List.Subset.refl _) (by rw [Option.toList_none, List.append_nil])
  exact ⟨found, given, fun pair member => forward pair ((ends pair).mp member)⟩

end Flow

end DiagramMarkup
