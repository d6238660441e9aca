import DiagramMarkup.Proofs.Activity.Moves
import DiagramMarkup.Proofs.Reading
import Mathlib.Data.List.Forall2

/-! # Activities are well nested

A scan from the first node to the last keeps the open decisions and forks in a stack. Every marker
and every closing node has to belong to the innermost one. However the lines of an activity open,
separate and close its constructs, its nodes pass the scan and leave nothing open.
-/

namespace DiagramMarkup

open ActivityDiagram

namespace ActivityNode

/-- The node without what it tells about lanes, partitions and notes. -/
def core (node : ActivityNode) : ActivityNode :=
  { node with lane := none, partition := none, note := none }

@[simp] theorem core_name (node : ActivityNode) : node.core.name = node.name := rfl

@[simp] theorem core_role (node : ActivityNode) : node.core.role = node.role := rfl

@[simp] theorem core_opener (node : ActivityNode) : node.core.opener = node.opener := rfl

end ActivityNode

namespace Nesting

/-- The open decisions and forks behind a node, the innermost first; none if the node does not fit
those before it. -/
def step (stack : List ActivityNode) (node : ActivityNode) : Option (List ActivityNode) :=
  match node.role, stack with
  | .alone, _ => some stack
  | .opens _, _ => some (node :: stack)
  | .separates kind, top :: _ =>
      if top.role = .opens kind ∧ node.opener = some top.name then some stack else none
  | .closes kind, top :: below =>
      if top.role = .opens kind ∧ node.opener = some top.name then some below else none
  | _, [] => none

/-- The open decisions and forks behind some nodes, given those before them. -/
def scan (stack nodes : List ActivityNode) : Option (List ActivityNode) :=
  nodes.foldlM step stack

/-- How a node passes the scan. -/
inductive Passes (node : ActivityNode) : List ActivityNode → List ActivityNode → Prop where
  | alone {stack} : node.role = .alone → Passes node stack stack
  | opens {stack kind} : node.role = .opens kind → Passes node stack (node :: stack)
  | separates {top below kind} : node.role = .separates kind → top.role = .opens kind →
      node.opener = some top.name → Passes node (top :: below) (top :: below)
  | closes {top below kind} : node.role = .closes kind → top.role = .opens kind →
      node.opener = some top.name → Passes node (top :: below) below

variable {stack next nodes : List ActivityNode} {node : ActivityNode}

theorem step_eq_some_iff : step stack node = some next ↔ Passes node stack next := by
  constructor
  · intro h
    unfold step at h
    split at h
    · cases h
      exact .alone ‹_›
    · cases h
      exact .opens ‹_›
    · split at h
      · rename_i fits
        cases h
        exact .separates ‹_› fits.1 fits.2
      · cases h
    · split at h
      · rename_i fits
        cases h
        exact .closes ‹_› fits.1 fits.2
      · cases h
    · cases h
  · intro h
    cases h with
    | alone role => simp only [step, role]
    | opens role => simp only [step, role]
    | separates role top opener => simp only [step, role, top, opener, and_self, if_true]
    | closes role top opener => simp only [step, role, top, opener, and_self, if_true]

theorem scan_cons_eq_some_iff :
    scan stack (node :: nodes) = some next ↔
      ∃ behind, Passes node stack behind ∧ scan behind nodes = some next := by
  simp only [scan, List.foldlM_cons, Option.bind_eq_bind, Option.bind_eq_some_iff, step_eq_some_iff]

theorem scan_append_singleton (h : scan stack nodes = some next) {behind : List ActivityNode}
    (passes : Passes node next behind) : scan stack (nodes ++ [node]) = some behind := by
  have last : step next node = some behind := step_eq_some_iff.mpr passes
  simp only [scan, List.foldlM_append, List.foldlM_cons, List.foldlM_nil] at h ⊢
  simp only [h, last, Option.bind_eq_bind, Option.bind_some, Option.pure_def]

theorem step_core (stack : List ActivityNode) (node : ActivityNode) :
    step (stack.map ActivityNode.core) node.core = (step stack node).map (·.map ActivityNode.core) := by
  cases stack with
  | nil =>
      unfold step
      rw [ActivityNode.core_role]
      cases node.role <;> rfl
  | cons top below =>
      unfold step
      rw [ActivityNode.core_role]
      cases node.role with
      | alone | opens => rfl
      | separates kind | closes kind =>
          simp only [List.map_cons, ActivityNode.core_role, ActivityNode.core_name,
            ActivityNode.core_opener]
          by_cases fits : top.role = .opens kind ∧ node.opener = some top.name
          · simp only [fits, and_self, if_true, Option.map_some, List.map_cons]
          · simp only [fits, if_false, Option.map_none]

theorem scan_core (stack nodes : List ActivityNode) :
    scan (stack.map ActivityNode.core) (nodes.map ActivityNode.core) =
      (scan stack nodes).map (·.map ActivityNode.core) := by
  induction nodes generalizing stack with
  | nil => rfl
  | cons node nodes ih =>
      simp only [scan, List.map_cons, List.foldlM_cons, step_core] at ih ⊢
      cases step stack node with
      | none => rfl
      | some behind => exact ih behind

/-- Of every kind of construct, as many are closed as are opened and not left open. -/
theorem scan_count (kind : FrameKind) (h : scan stack nodes = some next) :
    nodes.countP (·.role = .opens kind) + stack.countP (·.role = .opens kind) =
      nodes.countP (·.role = .closes kind) + next.countP (·.role = .opens kind) := by
  induction nodes generalizing stack with
  | nil =>
      cases h
      rfl
  | cons node nodes ih =>
      obtain ⟨behind, passes, h⟩ := scan_cons_eq_some_iff.mp h
      have rest := ih h
      cases passes with
      | alone role | separates role => simpa [List.countP_cons, role] using rest
      | opens role =>
          simp only [List.countP_cons, role, reduceCtorEq, decide_false, Bool.false_eq_true,
            if_false] at rest ⊢
          omega
      | closes role top =>
          simp only [List.countP_cons, role, top, reduceCtorEq, decide_false, Bool.false_eq_true,
            if_false, Role.closes.injEq, Role.opens.injEq]
          omega

/-- A node that separates or closes belongs to a node before it. -/
theorem scan_opener (h : scan stack nodes = some next) {place : Nat}
    (here : nodes[place]? = some node) (inner : node.role.isInner = true) :
    ∃ top ∈ stack ++ nodes.take place, node.opener = some top.name := by
  induction nodes generalizing stack place with
  | nil => simp only [List.getElem?_nil, reduceCtorEq] at here
  | cons first nodes ih =>
      obtain ⟨behind, passes, h⟩ := scan_cons_eq_some_iff.mp h
      cases place with
      | zero =>
          simp only [List.getElem?_cons_zero, Option.some.injEq] at here
          subst here
          cases passes with
          | alone role | opens role => rw [role] at inner; cases inner
          | separates _ _ opener | closes _ _ opener => exact ⟨_, List.mem_cons_self, opener⟩
      | succ place =>
          simp only [List.getElem?_cons_succ] at here
          obtain ⟨top, member, opener⟩ := ih h here
          refine ⟨top, ?_, opener⟩
          simp only [List.take_succ_cons, List.mem_append, List.mem_cons] at member ⊢
          cases passes with
          | alone | separates => tauto
          | opens => simp only [List.mem_cons] at member; tauto
          | closes => simp only [List.mem_cons]; tauto

end Nesting

end DiagramMarkup
