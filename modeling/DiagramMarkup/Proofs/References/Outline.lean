import DiagramMarkup.Proofs.Reading
import DiagramMarkup.Proofs.References.Containment
import DiagramMarkup.Proofs.Tables
import DiagramMarkup.Reading.MindMap
import Mathlib.Data.List.Forall2
import Mathlib.Data.List.TakeWhile

/-! # Mind maps are outlines

The headings of a document are the topics that its lines give, each with a level. They become one
tree: a topic goes below the nearest one before it that has a smaller level. The first heading that
there is none for, the root apart, ends the tree, and nothing behind it is entered.
-/

namespace DiagramMarkup.MindMap

/-- A topic of a document: what its first line says, and its text. -/
structure Heading where
  entry : Entry
  label : List Char
deriving Repr, DecidableEq

namespace Heading

def level (heading : Heading) : Nat :=
  heading.entry.level

/-- The topic that is entered for a heading; its parent and its side follow from those before it. -/
structure Gives (heading : Heading) (topic : Topic) : Prop where
  level : topic.level = heading.level
  label : topic.label = String.ofList heading.label
  boxless : topic.boxless = heading.entry.boxless

theorem map_level_of_gives {headings : List Heading} {topics : List Topic}
    (given : List.Forall₂ Gives headings topics) :
    topics.map Topic.level = headings.map Heading.level := by
  induction given with
  | nil => rfl
  | cons gives _ ih => rw [List.map_cons, List.map_cons, gives.level, ih]

end Heading

/-- The headings of some lines: the topics that have a text. -/
def headings : List Line → List Heading
  | [] => []
  | line :: rest =>
    match entryPattern.read? line.chars with
    | none => headings rest
    | some entry =>
      let (label, left) := topicText entry.text rest
      have := left.2.length_le
      if label.isEmpty then headings left.1 else ⟨entry, label⟩ :: headings left.1
termination_by lines => lines.length
decreasing_by all_goals simp only [List.length_cons]; omega

/-- The headings of one tree: the first one, and those behind it up to one that is no deeper. -/
def firstTree : List Heading → List Heading
  | [] => []
  | root :: others => root :: others.takeWhile fun heading => root.level < heading.level

/-- The nearest of some topics, from the last one back, that has a smaller level. -/
def above? (earlier : List Topic) (level : Nat) : Option Topic :=
  earlier.reverse.find? fun topic => topic.level < level

/-- The topics of a map are those of some headings, in their order and below one another by their
levels, and its relations lead from every parent to its child. -/
structure Outlines (map : MindMap) (headings : List Heading) : Prop where
  given : List.Forall₂ Heading.Gives headings map.nodes.values
  keys : map.nodes.keys = (List.range headings.length).map fun place => s!"n{place}"
  names : map.nodes.values.map Topic.name = map.nodes.keys
  parents : ∀ (place : Nat) (topic : Topic), map.nodes.values[place]? = some topic →
    topic.parent = (above? (map.nodes.values.take place) topic.level).map Topic.name
  root : ∀ (place : Nat) (topic : Topic), map.nodes.values[place]? = some topic →
    (topic.parent = none ↔ place = 0)
  relations : map.relations = (map.nodes.parents Topic.parent).filterMap Parents.containment

/-! ## A reading as a run over headings -/

/-- What a heading does to a draft: it is entered unless it would be a second root. -/
def Draft.receive (draft : Draft) (heading : Heading) : Draft :=
  let back := draft.backTo heading.level
  if back.ancestors.isEmpty && back.map.root?.isSome then back
  else back.enter heading.entry heading.label

theorem readAll_eq_foldl (draft : Draft) (lines : List Line) :
    (readAll turn draft lines).1 = (headings lines).foldl Draft.receive draft := by
  induction hn : lines.length using Nat.strongRecOn generalizing draft lines with
  | ind n ih =>
      cases lines with
      | nil => simp only [readAll, headings, List.foldl_nil]
      | cons line rest =>
          have onward (next : Draft) (left : Remaining rest) :
              (readAll turn next left.1).1 = (headings left.1).foldl Draft.receive next := by
            refine ih _ ?_ next left.1 rfl
            have suffix := left.2.length_le
            simp only [← hn, List.length_cons]
            omega
          rw [readAll_cons_fst, headings, turn]
          cases entryPattern.read? line.chars with
          | none => exact onward draft (.all rest)
          | some entry =>
              dsimp only
              split
              · exact onward draft _
              · have received : draft.receive ⟨entry, (topicText entry.text rest).1⟩ =
                    (if (draft.backTo entry.level).ancestors.isEmpty &&
                        (draft.backTo entry.level).map.root?.isSome then
                      draft.backTo entry.level
                    else (draft.backTo entry.level).enter entry (topicText entry.text rest).1) := rfl
                rw [List.foldl_cons, received]
                split <;> exact onward _ _

/-! ## The tree of a draft -/

theorem above?_append_singleton (earlier : List Topic) (topic : Topic) (level : Nat) :
    above? (earlier ++ [topic]) level =
      if topic.level < level then some topic else above? earlier level := by
  unfold above?
  rw [List.reverse_append, List.reverse_singleton, List.singleton_append, List.find?_cons]
  by_cases smaller : topic.level < level <;> simp [smaller]

theorem above?_eq_none_iff {earlier : List Topic} {level : Nat} :
    above? earlier level = none ↔ ∀ topic ∈ earlier, level ≤ topic.level := by
  simp only [above?, List.find?_eq_none, List.mem_reverse, decide_eq_true_eq, Nat.not_lt]

theorem mem_of_above? {earlier : List Topic} {level : Nat} {topic : Topic}
    (found : above? earlier level = some topic) : topic ∈ earlier :=
  List.mem_reverse.mp (List.mem_of_find?_eq_some found)

namespace Draft

variable {draft : Draft} {done : List Heading}

/-- A draft holds the outline of some headings, and from its ancestors one finds what a new topic
goes below. -/
structure Follows (draft : Draft) (done : List Heading) : Prop extends
    Outlines draft.map done where
  chain : ∀ level, (draft.ancestors.find? (·.level < level)).map Ancestor.name =
    (above? draft.map.nodes.values level).map Topic.name

theorem follows_empty : Follows {} [] where
  given := .nil
  keys := rfl
  names := rfl
  parents _ _ here := by cases here
  root _ _ here := by cases here
  relations := rfl
  chain _ := rfl

theorem head?_backTo (draft : Draft) (level : Nat) :
    (draft.backTo level).ancestors.head? = draft.ancestors.find? (·.level < level) := by
  unfold backTo
  rw [← List.find?_not_eq_head?_dropWhile]
  congr 1
  funext ancestor
  simp only [ge_iff_le, ← decide_not, Nat.not_le]

/-- An ancestor with a smaller level is not left on the way back. -/
theorem find?_backTo (draft : Draft) {level smaller : Nat} (le : smaller ≤ level) :
    (draft.backTo level).ancestors.find? (·.level < smaller) =
      draft.ancestors.find? (·.level < smaller) := by
  unfold backTo
  induction draft.ancestors with
  | nil => rfl
  | cons ancestor ancestors ih =>
      by_cases left : ancestor.level ≥ level
      · have passed : ¬ ancestor.level < smaller := by omega
        rw [List.dropWhile_cons_of_pos (by simpa using left), ih,
          List.find?_cons_of_neg (by simpa using passed)]
      · rw [List.dropWhile_cons_of_neg (by simpa using left)]

/-- What the ancestors tell of the topics above is still told where a topic has been entered. -/
theorem map_find?_enter {β : Type} {f : Ancestor → β} {g : Topic → β} {earlier : List Topic}
    (chain : ∀ level, (draft.ancestors.find? (·.level < level)).map f = (above? earlier level).map g)
    (entered : Nat) {ancestor : Ancestor} {topic : Topic} (new : ancestor.level = entered)
    (levels : topic.level = entered) (same : f ancestor = g topic) (level : Nat) :
    ((ancestor :: (draft.backTo entered).ancestors).find? (·.level < level)).map f =
      (above? (earlier ++ [topic]) level).map g := by
  rw [above?_append_singleton, List.find?_cons, new, levels]
  by_cases smaller : entered < level
  · simp only [smaller, decide_true, if_true, Option.map_some, same]
  · simp only [smaller, decide_false, if_false]
    rw [← chain, ← find?_backTo draft (Nat.not_lt.mp smaller)]

namespace Follows

theorem size (follows : Follows draft done) : draft.map.nodes.size = done.length := by
  rw [← Table.length_keys, follows.keys, List.length_map, List.length_range]

theorem length_values (follows : Follows draft done) :
    draft.map.nodes.values.length = done.length :=
  follows.given.length_eq.symm

theorem fresh (follows : Follows draft done) :
    s!"n{draft.map.nodes.size}" ∉ draft.map.nodes.keys := by
  rw [follows.keys, follows.size]
  intro known
  obtain ⟨place, before, same⟩ := List.mem_map.mp known
  have here : place = done.length := numbered_injective "n" same
  exact Nat.lt_irrefl _ (here ▸ List.mem_range.mp before)

/-- A heading is entered below the nearest topic with a smaller level; only the first one needs
none. -/
theorem enter (follows : Follows draft done) (heading : Heading)
    (below : done = [] ∨ above? draft.map.nodes.values heading.level ≠ none) :
    Follows ((draft.backTo heading.level).enter heading.entry heading.label) (done ++ [heading]) := by
  have fresh := follows.fresh
  have parent : (draft.backTo heading.level).ancestors.head?.map Ancestor.name =
      (above? draft.map.nodes.values heading.level).map Topic.name := by
    rw [head?_backTo, follows.chain]
  unfold Draft.enter
  dsimp only
  rw [parent]
  generalize (draft.backTo heading.level).sideOf heading.entry.mark = side
  refine ⟨⟨?given, ?keys, ?names, ?parents, ?root, ?relations⟩, ?chain⟩
  all_goals dsimp only [backTo]
  case given =>
    rw [Table.values_insertNew fresh]
    exact List.rel_append follows.given (.cons ⟨rfl, rfl, rfl⟩ .nil)
  case keys =>
    rw [Table.keys_insertNew, if_neg fresh, List.length_append, List.length_singleton,
      List.range_succ, List.map_append, follows.keys, follows.size]
    rfl
  case names =>
    rw [Table.values_insertNew fresh, Table.keys_insertNew, if_neg fresh, List.map_append,
      follows.names]
    rfl
  case parents =>
    rw [Table.values_insertNew fresh]
    intro place topic here
    rcases getElem?_append_singleton_iff.mp here with ⟨before, here⟩ | ⟨rfl, rfl⟩
    · rw [List.take_append_of_le_length (Nat.le_of_lt before)]
      exact follows.parents place topic here
    · rw [List.take_left]
      rfl
  case root =>
    rw [Table.values_insertNew fresh]
    intro place topic here
    rcases getElem?_append_singleton_iff.mp here with ⟨before, here⟩ | ⟨rfl, rfl⟩
    · exact follows.root place topic here
    · rw [Option.map_eq_none_iff, follows.length_values, List.length_eq_zero_iff]
      constructor
      · exact fun none => below.resolve_right fun some => some none
      · intro first
        rw [List.length_eq_zero_iff.mp (follows.length_values.trans (congrArg List.length first))]
        rfl
  case relations =>
    rw [Table.parents_insertNew fresh, List.filterMap_append, follows.relations]
    congr 1
    cases above? draft.map.nodes.values heading.level <;> rfl
  case chain =>
    rw [Table.values_insertNew fresh]
    intro level
    refine map_find?_enter follows.chain heading.level ?_ ?_ ?_ level <;> rfl

theorem above?_eq_none_iff {root : Heading} (follows : Follows draft (root :: done))
    (deeper : ∀ heading ∈ done, root.level < heading.level) {level : Nat} :
    above? draft.map.nodes.values level = none ↔ level ≤ root.level := by
  have in_levels : (∀ topic ∈ draft.map.nodes.values, level ≤ topic.level) ↔
      ∀ heading ∈ root :: done, level ≤ heading.level := by
    rw [← List.forall_mem_map (P := (level ≤ ·)), Heading.map_level_of_gives follows.given,
      List.forall_mem_map]
  rw [MindMap.above?_eq_none_iff, in_levels, List.forall_mem_cons]
  exact and_iff_left_of_imp fun le heading member =>
    Nat.le_trans le (Nat.le_of_lt (deeper heading member))

theorem isSome_root?_iff (follows : Follows draft done) :
    draft.map.root?.isSome = true ↔ done ≠ [] := by
  unfold root?
  rw [List.find?_isSome]
  constructor
  · rintro ⟨topic, member, _⟩ none
    have empty : draft.map.nodes.values.length = 0 := by
      rw [follows.length_values, none]
      rfl
    rw [List.length_eq_zero_iff.mp empty] at member
    cases member
  · intro some
    have inside : 0 < draft.map.nodes.values.length := by
      rw [follows.length_values]
      exact List.length_pos_of_ne_nil some
    have first := List.getElem?_eq_getElem inside
    refine ⟨_, List.getElem_mem inside, ?_⟩
    rw [(follows.root 0 _ first).mpr rfl]
    rfl

theorem receive_eq (follows : Follows draft done) (heading : Heading)
    (below : done = [] ∨ above? draft.map.nodes.values heading.level ≠ none) :
    draft.receive heading =
      (draft.backTo heading.level).enter heading.entry heading.label := by
  unfold Draft.receive
  dsimp only
  rw [if_neg]
  intro second
  obtain ⟨none, some⟩ := Bool.and_eq_true_iff.mp second
  apply below.elim (follows.isSome_root?_iff.mp some)
  intro parent
  apply parent
  rw [← Option.map_eq_none_iff, ← follows.chain, ← head?_backTo, List.isEmpty_iff.mp none]
  rfl

theorem receive (follows : Follows draft done) (heading : Heading)
    (below : done = [] ∨ above? draft.map.nodes.values heading.level ≠ none) :
    Follows (draft.receive heading) (done ++ [heading]) := by
  rw [follows.receive_eq heading below]
  exact follows.enter heading below

end Follows

/-- A draft whose tree has ended: a root was refused, and with it went the ancestors. -/
structure Ended (draft : Draft) : Prop where
  ancestors : draft.ancestors = []
  root : draft.map.root?.isSome = true

theorem Ended.foldl_receive (ended : draft.Ended) (rest : List Heading) :
    rest.foldl receive draft = draft := by
  obtain ⟨map, ancestors, balanced⟩ := draft
  obtain ⟨rfl, root⟩ := ended
  induction rest with
  | nil => rfl
  | cons heading rest ih =>
      have refused : receive ⟨map, [], balanced⟩ heading = ⟨map, [], balanced⟩ := if_pos root
      rw [List.foldl_cons, refused]
      exact ih

/-- A heading that is no deeper than the root ends the tree and leaves it as it is. -/
theorem Follows.end {root heading : Heading} (follows : Follows draft (root :: done))
    (deeper : ∀ heading ∈ done, root.level < heading.level) (second : heading.level ≤ root.level) :
    (draft.receive heading).map = draft.map ∧ (draft.receive heading).Ended := by
  have rooted := follows.isSome_root?_iff.mpr (List.cons_ne_nil root done)
  have none : (draft.backTo heading.level).ancestors = [] := by
    rw [← List.head?_eq_none_iff, head?_backTo, ← Option.map_eq_none_iff (f := Ancestor.name),
      follows.chain, (follows.above?_eq_none_iff deeper).mpr second]
    rfl
  have refused : draft.receive heading = draft.backTo heading.level :=
    if_pos (Bool.and_eq_true_iff.mpr ⟨List.isEmpty_iff.mpr none, rooted⟩)
  rw [refused]
  exact ⟨rfl, none, rooted⟩

/-- A tree is read up to the first heading that is no deeper than its root. What follows outlines, and
goes on with every heading of a sort that is entered, holds of a tree of such headings. -/
theorem exists_foldl_receive {P : Heading → Prop} {Q : Draft → List Heading → Prop}
    (follows : ∀ {draft done}, Q draft done → Follows draft done)
    (enter : ∀ {draft done} (heading : Heading), P heading → Q draft done →
      (done = [] ∨ above? draft.map.nodes.values heading.level ≠ none) →
        Q ((draft.backTo heading.level).enter heading.entry heading.label) (done ++ [heading]))
    {root : Heading} (holds : Q draft (root :: done))
    (deeper : ∀ heading ∈ done, root.level < heading.level) {rest : List Heading}
    (each : ∀ heading ∈ rest, P heading) :
    ∃ last, (rest.foldl Draft.receive draft).map = last.map ∧
      Q last (root :: (done ++ rest.takeWhile fun heading => root.level < heading.level)) := by
  induction rest generalizing draft done with
  | nil => exact ⟨draft, rfl, by simpa only [List.takeWhile_nil, List.append_nil] using holds⟩
  | cons heading rest ih =>
      obtain ⟨first, each⟩ := List.forall_mem_cons.mp each
      rw [List.foldl_cons]
      by_cases below : root.level < heading.level
      · have some : above? draft.map.nodes.values heading.level ≠ none := fun none =>
          Nat.not_lt.mpr (((follows holds).above?_eq_none_iff deeper).mp none) below
        rw [List.takeWhile_cons, if_pos (decide_eq_true below), List.append_cons,
          (follows holds).receive_eq heading (.inr some)]
        refine ih (enter heading first holds (.inr some)) ?_ each
        exact List.forall_mem_append.mpr ⟨deeper, List.forall_mem_singleton.mpr below⟩
      · obtain ⟨same, ended⟩ := (follows holds).end deeper (Nat.not_lt.mp below)
        rw [List.takeWhile_cons, if_neg (by simpa using below), List.append_nil,
          ended.foldl_receive, same]
        exact ⟨draft, rfl, holds⟩

theorem Follows.outlines_foldl {root : Heading} (follows : Follows draft (root :: done))
    (deeper : ∀ heading ∈ done, root.level < heading.level) (rest : List Heading) :
    Outlines (rest.foldl Draft.receive draft).map
      (root :: (done ++ rest.takeWhile fun heading => root.level < heading.level)) := by
  obtain ⟨last, same, holds⟩ :=
    exists_foldl_receive (P := fun _ => True) (Q := Follows) id
      (fun heading _ follows => follows.enter heading) follows deeper fun _ _ => trivial
  rw [same]
  exact holds.toOutlines

end Draft

/-- Whatever the levels of the topics and the marks they are written with, a mind map is the outline
of the first tree in its lines. -/
theorem outlines_ofLines (lines : List Line) :
    Outlines (ofLines lines).1 (firstTree (headings lines)) := by
  have run : (ofLines lines).1 = ((headings lines).foldl Draft.receive {}).map :=
    congrArg Draft.map (readAll_eq_foldl {} lines)
  rw [run]
  cases headings lines with
  | nil => exact Draft.follows_empty.toOutlines
  | cons root others =>
      exact (Draft.follows_empty.receive root (.inl rfl)).outlines_foldl (fun _ none => nomatch none)
        others

end DiagramMarkup.MindMap
