import DiagramMarkup.Proofs.Activity.Nesting

/-! # The nesting tree of an activity

A list of nodes that passes the scan is the list of the nodes of a tree. A block is a row of single
nodes and whole constructs, and a construct holds the blocks of its branches. A conditional or a fork
has one more branch for every marker; no marker separates the branches of a loop, which has its body
alone.
-/

namespace DiagramMarkup

open ActivityDiagram Nesting

mutual
/-- A row of nodes and constructs. -/
inductive Block where
  | done
  /-- A node that stands alone, and what follows it. -/
  | simple (node : ActivityNode) (rest : Block)
  /-- A construct with its first branch and the others, and what follows it. -/
  | construct (kind : FrameKind) (opener : ActivityNode) (first : Block) (others : Branches)
      (closing : ActivityNode) (rest : Block)

/-- The branches of a construct behind the first one, each behind its marker. -/
inductive Branches where
  | done
  | branch (marker : ActivityNode) (block : Block) (rest : Branches)
end

mutual
/-- The nodes of a block in order. -/
def Block.nodes : Block → List ActivityNode
  | .done => []
  | .simple node rest => node :: rest.nodes
  | .construct _ opener first others closing rest =>
      opener :: (first.nodes ++ (others.nodes ++ closing :: rest.nodes))

/-- The nodes of branches in order, with their markers. -/
def Branches.nodes : Branches → List ActivityNode
  | .done => []
  | .branch marker block rest => marker :: (block.nodes ++ rest.nodes)
end

mutual
/-- Every node stands where its role lets it stand. -/
def Block.Fits : Block → Prop
  | .done => True
  | .simple node rest => node.role = .alone ∧ rest.Fits
  | .construct kind opener first others closing rest =>
      opener.role = .opens kind ∧ first.Fits ∧ others.Fits kind ∧ closing.role = .closes kind ∧
        rest.Fits

/-- Every node stands where its role lets it stand, in the branches of a kind of construct. -/
def Branches.Fits (kind : FrameKind) : Branches → Prop
  | .done => True
  | .branch marker block rest => marker.role = .separates kind ∧ block.Fits ∧ rest.Fits kind
end

mutual
/-- Every marker and every closing node belongs to the opener of its construct. -/
def Block.Bound : Block → Prop
  | .done => True
  | .simple _ rest => rest.Bound
  | .construct _ opener first others closing rest =>
      first.Bound ∧ others.Bound opener.name ∧ closing.opener = some opener.name ∧ rest.Bound

/-- Every marker of the branches belongs to the opener of the given name. -/
def Branches.Bound (opener : String) : Branches → Prop
  | .done => True
  | .branch marker block rest => marker.opener = some opener ∧ block.Bound ∧ rest.Bound opener
end

namespace Nesting

mutual
theorem exists_block (nodes : List ActivityNode) {stack : List ActivityNode}
    (h : scan stack nodes = some []) :
    ∃ (block : Block) (rest : List ActivityNode), block.Fits ∧ nodes = block.nodes ++ rest ∧
      scan stack rest = some [] ∧ ∀ node ∈ rest.head?, node.role.isInner = true := by
  cases nodes with
  | nil =>
      refine ⟨.done, [], trivial, rfl, h, ?_⟩
      intro node member
      cases member
  | cons node nodes =>
      obtain ⟨behind, passes, h'⟩ := scan_cons_eq_some_iff.mp h
      cases passes with
      | alone role =>
          obtain ⟨block, rest, fits, rfl, scanned, inner⟩ := exists_block nodes h'
          exact ⟨.simple node block, rest, ⟨role, fits⟩, rfl, scanned, inner⟩
      | opens role =>
          obtain ⟨first, behindFirst, firstFits, split, scanned, inner⟩ := exists_block nodes h'
          have shorter : behindFirst.length ≤ nodes.length := by
            simp only [split, List.length_append, Nat.le_add_left]
          obtain ⟨others, closing, behindOthers, othersFit, closes, split', scanned'⟩ :=
            exists_branches behindFirst role scanned inner
          have shorter' : behindOthers.length < behindFirst.length := by
            simp only [split', List.length_append, List.length_cons]
            omega
          obtain ⟨block, rest, fits, split'', last⟩ := exists_block behindOthers scanned'
          refine ⟨.construct _ node first others closing block, rest,
            ⟨role, firstFits, othersFit, closes, fits⟩, ?_, last⟩
          simp only [split, split', split'', Block.nodes, List.append_assoc, List.cons_append]
      | separates role | closes role =>
          refine ⟨.done, node :: nodes, trivial, rfl, h, ?_⟩
          intro head member
          cases member
          exact congrArg Role.isInner role
termination_by nodes.length

theorem exists_branches (nodes : List ActivityNode) {stack : List ActivityNode}
    {top : ActivityNode} {kind : FrameKind} (opens : top.role = .opens kind)
    (h : scan (top :: stack) nodes = some [])
    (inner : ∀ node ∈ nodes.head?, node.role.isInner = true) :
    ∃ (others : Branches) (closing : ActivityNode) (rest : List ActivityNode),
      others.Fits kind ∧ closing.role = .closes kind ∧ nodes = others.nodes ++ closing :: rest ∧
        scan stack rest = some [] := by
  cases nodes with
  | nil => cases h
  | cons node nodes =>
      obtain ⟨behind, passes, h⟩ := scan_cons_eq_some_iff.mp h
      have inner := inner node rfl
      cases passes with
      | alone role | opens role => rw [role] at inner; cases inner
      | separates role same =>
          cases opens.symm.trans same
          obtain ⟨block, behindBlock, fits, split, scanned, inner⟩ := exists_block nodes h
          have shorter : behindBlock.length ≤ nodes.length := by
            simp only [split, List.length_append, Nat.le_add_left]
          obtain ⟨others, closing, rest, othersFit, closes, split', scanned'⟩ :=
            exists_branches behindBlock opens scanned inner
          refine ⟨.branch node block others, closing, rest, ⟨role, fits, othersFit⟩, closes, ?_,
            scanned'⟩
          simp only [split, split', Branches.nodes, List.append_assoc, List.cons_append]
      | closes role same =>
          cases opens.symm.trans same
          exact ⟨.done, node, nodes, trivial, role, rfl, h⟩
termination_by nodes.length
end

/-- Nodes that pass the scan are the nodes of a tree. -/
theorem exists_tree {nodes : List ActivityNode} (h : scan [] nodes = some []) :
    ∃ block : Block, block.Fits ∧ block.nodes = nodes := by
  obtain ⟨block, rest, fits, rfl, scanned, inner⟩ := exists_block nodes h
  cases rest with
  | nil => exact ⟨block, fits, (List.append_nil _).symm⟩
  | cons node rest =>
      -- Nothing is open behind the block, so that no node can separate or close.
      obtain ⟨behind, passes, _⟩ := scan_cons_eq_some_iff.mp scanned
      have inner := inner node rfl
      cases passes with
      | alone role | opens role => rw [role] at inner; cases inner

mutual
/-- The scan leaves a block with the stack that it met it with, and finds its nodes bound. -/
theorem scan_block_append {stack rest next : List ActivityNode} :
    ∀ block : Block, block.Fits → scan stack (block.nodes ++ rest) = some next →
      block.Bound ∧ scan stack rest = some next
  | .done, _, h => ⟨trivial, h⟩
  | .simple node block, ⟨role, fits⟩, h => by
      obtain ⟨behind, passes, h⟩ := scan_cons_eq_some_iff.mp h
      cases passes with
      | alone => exact scan_block_append block fits h
      | opens other | separates other | closes other => cases role.symm.trans other
  | .construct kind opener first others closing block,
      ⟨opens, firstFits, othersFit, closes, fits⟩, h => by
      simp only [Block.nodes, List.cons_append, List.append_assoc] at h
      obtain ⟨behind, passes, h⟩ := scan_cons_eq_some_iff.mp h
      cases passes with
      | alone other | separates other | closes other => cases opens.symm.trans other
      | opens =>
          obtain ⟨firstBound, h⟩ := scan_block_append first firstFits h
          obtain ⟨othersBound, h⟩ := scan_branches_append others opens othersFit h
          obtain ⟨behind, passes, h⟩ := scan_cons_eq_some_iff.mp h
          cases passes with
          | alone other | separates other | opens other => cases closes.symm.trans other
          | closes _ _ owner =>
              obtain ⟨bound, h⟩ := scan_block_append block fits h
              exact ⟨⟨firstBound, othersBound, owner, bound⟩, h⟩

theorem scan_branches_append {stack rest next : List ActivityNode} {top : ActivityNode}
    {kind : FrameKind} :
    ∀ others : Branches, top.role = .opens kind → others.Fits kind →
      scan (top :: stack) (others.nodes ++ rest) = some next →
        others.Bound top.name ∧ scan (top :: stack) rest = some next
  | .done, _, _, h => ⟨trivial, h⟩
  | .branch marker block others, opens, ⟨separates, fits, othersFit⟩, h => by
      simp only [Branches.nodes, List.cons_append, List.append_assoc] at h
      obtain ⟨behind, passes, h⟩ := scan_cons_eq_some_iff.mp h
      cases passes with
      | alone other | closes other | opens other => cases separates.symm.trans other
      | separates _ _ owner =>
          obtain ⟨bound, h⟩ := scan_block_append block fits h
          obtain ⟨othersBound, h⟩ := scan_branches_append others opens othersFit h
          exact ⟨⟨owner, bound, othersBound⟩, h⟩
end

theorem bound_of_scan {block : Block} (fits : block.Fits) (h : scan [] block.nodes = some []) :
    block.Bound := by
  rw [← List.append_nil block.nodes] at h
  exact (scan_block_append block fits h).1

end Nesting

end DiagramMarkup
