import DiagramMarkup.Proofs.Activity.Exits
import DiagramMarkup.Proofs.Activity.WellNested

/-! # The flow of an activity follows its nesting tree

The edges are found node by node, and every node of a tree leads where the tree says. Repeated exits
that are dropped take no pair of nodes away.
-/

namespace DiagramMarkup

open ActivityDiagram Nesting

namespace Flow

variable {nodes : List ActivityNode} {place : Nat} {node : ActivityNode}

/-! ## Edges -/

theorem target_mem_distinct (exits : List Exit) (target : Nat) :
    target ∈ (distinct exits).map Exit.target ↔ target ∈ exits.map Exit.target := by
  have from_kept (kept : List Exit) :
      target ∈ (exits.foldl (fun kept exit =>
          if kept.any fun k => k.target = exit.target then kept else kept ++ [exit]) kept).map
        Exit.target ↔ target ∈ kept.map Exit.target ∨ target ∈ exits.map Exit.target := by
    induction exits generalizing kept with
    | nil => simp only [List.foldl_nil, List.map_nil, List.not_mem_nil, or_false]
    | cons exit exits ih =>
        rw [List.foldl_cons, ih]
        by_cases known : kept.any fun k => k.target = exit.target
        · obtain ⟨k, member, same⟩ := List.any_eq_true.mp known
          have here : exit.target ∈ kept.map Exit.target :=
            of_decide_eq_true same ▸ List.mem_map_of_mem member
          rw [if_pos known, List.map_cons, List.mem_cons]
          constructor
          · rintro (member | member)
            · exact .inl member
            · exact .inr (.inr member)
          · rintro (member | rfl | member)
            · exact .inl member
            · exact .inl here
            · exact .inr member
        · rw [if_neg known, List.map_append, List.mem_append, List.map_singleton,
            List.mem_singleton, List.map_cons, List.mem_cons, or_assoc]
  exact (from_kept []).trans (or_iff_right (List.not_mem_nil))

/-- The edges of some nodes are found and have the given ends. -/
def Gives (nodes : List ActivityNode) (place : Nat) (part : List ActivityNode)
    (pairs : List (String × String)) : Prop :=
  ∃ edges, edgesFrom nodes place part = .ok edges ∧
    ∀ pair, pair ∈ edges.map Relation.ends ↔ pair ∈ pairs

variable {part rest : List ActivityNode} {pairs more : List (String × String)} {targets : List String}

theorem Gives.nil : Gives nodes place [] [] :=
  ⟨[], rfl, fun _ => Iff.rfl⟩

theorem Gives.cons (found : ExitsTo nodes (exits nodes place node) targets)
    (gives : Gives nodes (place + 1) rest pairs) :
    Gives nodes place (node :: rest) (leads node.name targets ++ pairs) := by
  obtain ⟨exits, found, rfl⟩ := found
  obtain ⟨edges, given, ends⟩ := gives
  refine ⟨(distinct exits).map (edge nodes node.name) ++ edges, ?_, ?_⟩
  · rw [edgesFrom, found, given]
    rfl
  · intro pair
    have here : pair ∈ ((distinct exits).map (edge nodes node.name)).map Relation.ends ↔
        ∃ target ∈ exits.map Exit.target, (node.name, nameAt nodes target) = pair := by
      rw [List.map_map, List.mem_map]
      constructor
      · rintro ⟨exit, member, rfl⟩
        exact ⟨exit.target, (target_mem_distinct _ _).mp (List.mem_map_of_mem member), rfl⟩
      · rintro ⟨target, member, rfl⟩
        obtain ⟨exit, kept, rfl⟩ := List.mem_map.mp ((target_mem_distinct _ _).mpr member)
        exact ⟨exit, kept, rfl⟩
    rw [List.map_append, List.mem_append, List.mem_append, here, ends]
    simp only [leads, List.map_map, List.mem_map, exists_exists_and_eq_and, Function.comp_apply]

theorem edgesFrom_append (place : Nat) (part rest : List ActivityNode) :
    edgesFrom nodes place (part ++ rest) = do
      return (← edgesFrom nodes place part) ++ (← edgesFrom nodes (place + part.length) rest) := by
  induction part generalizing place with
  | nil =>
      rw [List.nil_append, List.length_nil, Nat.add_zero]
      cases edgesFrom nodes place rest <;> rfl
  | cons node part ih =>
      simp only [List.cons_append, edgesFrom, ih, List.length_cons, bind_assoc, pure_bind,
        List.append_assoc, Nat.add_right_comm, Nat.add_assoc]

theorem Gives.append (first : Gives nodes place part pairs)
    (second : Gives nodes (place + part.length) rest more) :
    Gives nodes place (part ++ rest) (pairs ++ more) := by
  obtain ⟨edges, given, ends⟩ := first
  obtain ⟨edges', given', ends'⟩ := second
  refine ⟨edges ++ edges', ?_, ?_⟩
  · rw [edgesFrom_append, given, given']
    rfl
  · intro pair
    rw [List.map_append, List.mem_append, List.mem_append, ends, ends']

mutual
/-- The edges of a block have the ends that the tree says. -/
theorem gives_block : ∀ (block : Block) {before behind : List ActivityNode} {after : Option String},
    block.Fits → block.Bound → Within nodes before block.nodes behind →
      Arrives nodes (before.length + block.nodes.length) after →
        Gives nodes before.length block.nodes (block.flow after)
  | .done, _, _, _, _, _, _, _ => .nil
  | .simple node rest, before, behind, after, ⟨role, fits⟩, bound, within, arrives => by
      have inRest := within.simple_rest role
      have toRest : (before ++ [node]).length = before.length + 1 := List.length_append
      have arrives : Arrives nodes ((before ++ [node]).length + rest.nodes.length) after := by
        rw [toRest, Nat.add_assoc, Nat.add_comm 1]
        exact arrives
      have entered := arrives_block after inRest.split fits arrives
      have gives := gives_block rest fits bound inRest arrives
      rw [toRest] at entered gives
      refine .cons ?_ gives
      rw [exits_eq, role]
      dsimp only
      by_cases stops : node.kind = .stop
      · rw [if_pos stops, if_pos stops]
        exact ⟨[], rfl, rfl⟩
      · rw [if_neg stops, if_neg stops]
        exact exitsTo_onward entered none
  | .construct kind opener first others last rest, before, behind, after, fits, bound, within,
      arrives => by
      have stands := stands_construct within fits bound arrives
      obtain ⟨inFirst, inOthers, inRest⟩ := within.construct_parts fits bound
      have toFirst : (before ++ [opener]).length = before.length + 1 := List.length_append
      have toOthers := length_past before first.nodes opener
      have toRest := length_past_both before first.nodes others.nodes opener last
      have closed : closing nodes opener.name =
          .ok ((before ++ opener :: first.nodes).length + others.nodes.length) := by
        rw [stands.closed, toOthers]
      obtain ⟨opens, firstFits, othersFit, closes, restFits⟩ := fits
      obtain ⟨firstBound, othersBound, owner, restBound⟩ := bound
      have behindFirst : Arrives nodes ((before ++ [opener]).length + first.nodes.length)
          (some last.name) := by
        rw [toFirst, ← toOthers]
        exact arrives_branches inOthers.split othersFit othersBound closes closed
      have behindRest : Arrives nodes
          ((before ++ opener :: (first.nodes ++ (others.nodes ++ [last]))).length +
            rest.nodes.length) after := by
        simp only [Block.nodes, List.length_cons, List.length_append] at arrives
        convert arrives using 1
        rw [toRest]
        omega
      have givesFirst := gives_block first firstFits firstBound inFirst behindFirst
      have givesOthers := gives_branches others othersFit othersBound inOthers closes owner closed
      have givesRest := gives_block rest restFits restBound inRest behindRest
      rw [toFirst] at givesFirst
      rw [toOthers] at givesOthers
      rw [toRest] at givesRest
      have givesLast := Gives.cons (stands.exitsTo_last closes owner) givesRest
      exact .cons (stands.exitsTo_opener opens) (givesFirst.append (givesOthers.append givesLast))

theorem gives_branches : ∀ (others : Branches) {before behind : List ActivityNode}
    {kind : FrameKind} {opener : String} {last : ActivityNode},
      others.Fits kind → others.Bound opener →
        Within nodes before others.nodes (last :: behind) → last.role = .closes kind →
          last.opener = some opener →
            closing nodes opener = .ok (before.length + others.nodes.length) →
              Gives nodes before.length others.nodes (others.flow (some last.name))
  | .done, _, _, _, _, _, _, _, _, _, _, _ => .nil
  | .branch marker block rest, before, behind, kind, opener, last, ⟨separates, fits, restFits⟩,
      ⟨markerOwner, bound, restBound⟩, within, closes, owner, closed => by
      have absent : opener ∉ (Branches.branch marker block rest).nodes.map ActivityNode.name := by
        intro member
        apply (within.apart opener member).2
        rw [mentioned_cons_inner (congrArg Role.isInner closes) owner]
        exact List.mem_cons_self
      obtain ⟨inBlock, inRest⟩ := within.branch_parts separates fits restFits markerOwner bound
        restBound absent
      have toBlock : (before ++ [marker]).length = before.length + 1 := List.length_append
      have toRest := length_past before block.nodes marker
      have closedRest : closing nodes opener =
          .ok ((before ++ marker :: block.nodes).length + rest.nodes.length) := by
        rw [closed, toRest, Branches.nodes, List.length_cons, List.length_append]
        congr 1
        omega
      have behindBlock : Arrives nodes ((before ++ [marker]).length + block.nodes.length)
          (some last.name) := by
        rw [toBlock, ← toRest]
        exact arrives_branches inRest.split restFits restBound closes closedRest
      have givesBlock := gives_block block fits bound inBlock behindBlock
      have givesRest := gives_branches rest restFits restBound inRest closes owner closedRest
      rw [toBlock] at givesBlock
      rw [toRest] at givesRest
      have found : ExitsTo nodes (exits nodes before.length marker) [] :=
        ⟨[], by rw [exits_eq, separates], rfl⟩
      exact .cons found (givesBlock.append givesRest)
end

/-- The edges of a well nested list of nodes have the ends that its tree says. -/
theorem gives_tree {block : Block} (nested : Nested block.nodes []) (fits : block.Fits) :
    Gives block.nodes 0 block.nodes (block.flow none) := by
  have bound := bound_of_scan fits nested.scanned
  have whole : Within block.nodes [] block.nodes [] :=
    { split := by rw [List.nil_append, List.append_nil]
      nodup := nested.nodup
      apart := fun name _ => ⟨List.not_mem_nil, List.not_mem_nil⟩ }
  have ends : Arrives block.nodes (([] : List ActivityNode).length + block.nodes.length) none := by
    apply Arrives.ends
    rw [List.length_nil, Nat.zero_add]
    exact List.getElem?_eq_none (Nat.le_refl _)
  exact gives_block block fits bound whole ends

/-- Whatever the lines are, their nodes have a nesting tree, and the edges are found and run between
the nodes between which control goes in the tree. -/
theorem edges_draftOfLines (lines : List Line) :
    (∃ block : Block, block.Fits ∧ block.nodes = (draftOfLines lines).1.nodes) ∧
      ∀ block : Block, block.Fits → block.nodes = (draftOfLines lines).1.nodes →
        ∃ found, edges (draftOfLines lines).1.nodes = .ok found ∧
          ∀ pair, pair ∈ found.map Relation.ends ↔ pair ∈ block.flow none := by
  have nested := nested_draftOfLines lines
  constructor
  · exact exists_tree nested.scanned
  · intro block fits same
    rw [← same] at nested ⊢
    exact gives_tree nested fits

end Flow

/-! ## The ends of edges -/

namespace Flow

/-- The names of the nodes that are drawn. -/
def drawn (nodes : List ActivityNode) : List String :=
  (nodes.filter fun node => !node.isMarker).map ActivityNode.name

variable {nodes behind : List ActivityNode} {node : ActivityNode} {name : String}

theorem drawn_append : drawn (nodes ++ behind) = drawn nodes ++ drawn behind := by
  simp only [drawn, List.filter_append, List.map_append]

theorem drawn_cons_marker (marks : node.role.isSeparator = true) :
    drawn (node :: nodes) = drawn nodes := by
  simp only [drawn, List.filter_cons, node.isMarker_eq, marks, Bool.not_true, Bool.false_eq_true,
    if_false]

theorem drawn_cons_node (drawn : node.role.isSeparator = false) :
    Flow.drawn (node :: nodes) = node.name :: Flow.drawn nodes := by
  simp only [Flow.drawn, List.filter_cons, node.isMarker_eq, drawn, Bool.not_false, if_true,
    List.map_cons]

/-- Both ends of every pair are among the given names. -/
def Joins (names : List String) (pairs : List (String × String)) : Prop :=
  ∀ pair ∈ pairs, pair.1 ∈ names ∧ pair.2 ∈ names

variable {names targets : List String} {pairs more : List (String × String)}

theorem Joins.append (first : Joins names pairs) (second : Joins names more) :
    Joins names (pairs ++ more) := by
  intro pair member
  rcases List.mem_append.mp member with member | member
  · exact first pair member
  · exact second pair member

theorem joins_leads (source : name ∈ names) (subset : targets ⊆ names) :
    Joins names (leads name targets) := by
  intro pair member
  obtain ⟨target, here, rfl⟩ := List.mem_map.mp member
  exact ⟨source, subset here⟩

variable {after : Option String} {kind : FrameKind}

theorem entry_subset {block : Block} (fits : block.Fits) (inside : drawn block.nodes ⊆ names)
    (goesOn : after.toList ⊆ names) : (block.entry after).toList ⊆ names := by
  cases block with
  | done => exact goesOn
  | simple node rest =>
      rw [Block.nodes, drawn_cons_node (congrArg Role.isSeparator fits.1)] at inside
      exact List.cons_subset.mpr ⟨(List.cons_subset.mp inside).1, List.nil_subset _⟩
  | construct kind opener first others last rest =>
      rw [Block.nodes, drawn_cons_node (congrArg Role.isSeparator fits.1)] at inside
      exact List.cons_subset.mpr ⟨(List.cons_subset.mp inside).1, List.nil_subset _⟩

theorem entries_subset {others : Branches} (fits : others.Fits kind)
    (inside : drawn others.nodes ⊆ names) (goesOn : after.toList ⊆ names) :
    others.entries after ⊆ names := by
  match others with
  | .done => exact List.nil_subset _
  | .branch marker block rest =>
      rw [Branches.nodes, drawn_cons_marker (congrArg Role.isSeparator fits.1), drawn_append] at inside
      obtain ⟨inBlock, inRest⟩ := List.append_subset.mp inside
      exact List.append_subset.mpr
        ⟨entry_subset fits.2.1 inBlock goesOn, entries_subset fits.2.2 inRest goesOn⟩

theorem openerTargets_subset (kind : FrameKind) {first : Block} {others : Branches} {last : String}
    {next : Option String} (enters : (first.entry (some last)).toList ⊆ names)
    (branches : others.entries (some last) ⊆ names) (closes : last ∈ names)
    (leaves : next.toList ⊆ names) : openerTargets kind first others last next ⊆ names := by
  have both := List.append_subset.mpr ⟨enters, branches⟩
  unfold openerTargets
  cases kind with
  | loop => exact List.append_subset.mpr ⟨enters, leaves⟩
  | fork => exact both
  | conditional =>
      dsimp only
      split
      · exact both
      · exact List.append_subset.mpr ⟨both, List.cons_subset.mpr ⟨closes, List.nil_subset _⟩⟩

mutual
/-- The flow of a block runs between nodes that are drawn and the node behind it. -/
theorem joins_block : ∀ (block : Block) {after : Option String}, block.Fits →
    drawn block.nodes ⊆ names → after.toList ⊆ names → Joins names (block.flow after)
  | .done, _, _, _, _ => fun _ member => absurd member List.not_mem_nil
  | .simple node rest, after, ⟨role, fits⟩, inside, goesOn => by
      rw [Block.nodes, drawn_cons_node (congrArg Role.isSeparator role)] at inside
      obtain ⟨here, inRest⟩ := List.cons_subset.mp inside
      refine (joins_leads here ?_).append (joins_block rest fits inRest goesOn)
      split
      · exact List.nil_subset _
      · exact entry_subset fits inRest goesOn
  | .construct kind opener first others last rest, after,
      ⟨opens, firstFits, othersFit, closes, fits⟩, inside, goesOn => by
      rw [Block.nodes, drawn_cons_node (congrArg Role.isSeparator opens), drawn_append, drawn_append,
        drawn_cons_node (congrArg Role.isSeparator closes)] at inside
      obtain ⟨atOpener, inside⟩ := List.cons_subset.mp inside
      obtain ⟨inFirst, inside⟩ := List.append_subset.mp inside
      obtain ⟨inOthers, inside⟩ := List.append_subset.mp inside
      obtain ⟨atLast, inRest⟩ := List.cons_subset.mp inside
      have last : (some last.name).toList ⊆ names := List.cons_subset.mpr ⟨atLast, List.nil_subset _⟩
      have next := entry_subset fits inRest goesOn
      have enters := entry_subset firstFits inFirst last
      have branches := entries_subset othersFit inOthers last
      have targets := openerTargets_subset kind enters branches atLast next
      refine (joins_leads atOpener targets).append
        ((joins_block first firstFits inFirst last).append
          ((joins_branches others othersFit inOthers last).append
            ((joins_leads atLast ?_).append (joins_block rest fits inRest goesOn))))
      split
      · exact List.cons_subset.mpr ⟨atOpener, List.nil_subset _⟩
      · exact next

theorem joins_branches {kind : FrameKind} : ∀ (others : Branches) {after : Option String},
    others.Fits kind → drawn others.nodes ⊆ names → after.toList ⊆ names →
      Joins names (others.flow after)
  | .done, _, _, _, _ => fun _ member => absurd member List.not_mem_nil
  | .branch marker block rest, after, ⟨separates, fits, restFits⟩, inside, goesOn => by
      rw [Branches.nodes, drawn_cons_marker (congrArg Role.isSeparator separates), drawn_append]
        at inside
      obtain ⟨inBlock, inRest⟩ := List.append_subset.mp inside
      exact (joins_block block fits inBlock goesOn).append
        (joins_branches rest restFits inRest goesOn)
end

/-- Whatever the lines are, the edges are found and run between nodes that are drawn. -/
theorem exists_edges (lines : List Line) :
    ∃ found, edges (draftOfLines lines).1.nodes = .ok found ∧
      Joins (drawn (draftOfLines lines).1.nodes) (found.map Relation.ends) := by
  have nested := nested_draftOfLines lines
  obtain ⟨block, fits, same⟩ := exists_tree nested.scanned
  rw [← same] at nested ⊢
  obtain ⟨found, given, ends⟩ := gives_tree nested fits
  have joins : Joins (drawn block.nodes) (block.flow none) :=
    joins_block block fits (List.Subset.refl _) (List.nil_subset _)
  exact ⟨found, given, fun pair member => joins pair ((ends pair).mp member)⟩

end Flow

end DiagramMarkup
