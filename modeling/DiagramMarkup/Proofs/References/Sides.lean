import DiagramMarkup.Proofs.References.Outline
import DiagramMarkup.Proofs.Text.Patterns
import Mathlib.Data.List.Nodup
import Mathlib.Logic.Relation

/-! # The sides of a mind map

The root stands in the middle. The topics right below it that are written with stars go right and left
by turns, and a topic below those stays on the side of what it stands below. A plus sign puts a topic
on the right and a minus sign on the left, however deep it stands, and so it may cross over.
-/

namespace DiagramMarkup.MindMap

/-! ## Marks -/

/-- The marks that topics are written with. -/
def marks : List Char :=
  ['*', '+', '-']

theorem mem_marks_iff {mark : Char} : mark ∈ marks ↔ mark = '*' ∨ mark = '+' ∨ mark = '-' := by
  simp only [marks, List.mem_cons, List.not_mem_nil, or_false]

theorem mark_mem_of_read? {s : List Char} {entry : Entry} (read : entryPattern.read? s = some entry) :
    entry.mark ∈ marks := by
  obtain ⟨rest, member⟩ := Pattern.exists_mem_of_read? read
  obtain ⟨⟨run, onward⟩, first, member⟩ := Pattern.mem_bind.mp member
  have of_run {c : Char} (known : c ∈ marks) (here : (run, onward) ∈ Pattern.run1 (· = c) s) :
      run.head?.getD '*' ∈ marks := by
    obtain ⟨d, head, same⟩ := Pattern.exists_head_of_mem_run1 here
    rw [head, Option.getD_some, of_decide_eq_true same]
    exact known
  have head : run.head?.getD '*' ∈ marks := by
    rcases Pattern.mem_orElse.mp first with star | sign
    · exact of_run (by decide) star
    · rcases Pattern.mem_orElse.mp sign with plus | minus
      · exact of_run (by decide) plus
      · exact of_run (by decide) minus
  simp only [Pattern.mem_bind, Pattern.mem_pure, Prod.mk.injEq] at member
  obtain ⟨_, _, _, _, _, _, _, _, _, _, rfl, _⟩ := member
  exact head

theorem mark_mem_headings (lines : List Line) :
    ∀ heading ∈ headings lines, heading.entry.mark ∈ marks := by
  fun_induction headings lines with
  | case1 => exact fun _ none => nomatch none
  | case2 line rest unread ih => exact ih
  | case3 line rest entry read label left found shorter bare ih => exact ih
  | case4 line rest entry read label left found shorter named ih =>
      exact List.forall_mem_cons.mpr ⟨mark_mem_of_read? read, ih⟩

/-- Topics, each with the mark that its heading is written with. -/
def marked (headings : List Heading) (topics : List Topic) : List (Char × Topic) :=
  (headings.map fun heading => heading.entry.mark).zip topics

theorem exists_mark {headings : List Heading} {topics : List Topic}
    (given : List.Forall₂ Heading.Gives headings topics) {place : Nat} {topic : Topic}
    (here : topics[place]? = some topic) :
    ∃ mark, (marked headings topics)[place]? = some (mark, topic) := by
  have inside : place < headings.length :=
    given.length_eq ▸ (List.getElem?_eq_some_iff.mp here).1
  refine ⟨headings[place].entry.mark, List.getElem?_zip_eq_some.mpr ⟨?_, here⟩⟩
  rw [List.getElem?_map, List.getElem?_eq_getElem inside]
  rfl

theorem getElem?_of_marked {headings : List Heading} {topics : List Topic} {place : Nat} {mark : Char}
    {topic : Topic} (here : (marked headings topics)[place]? = some (mark, topic)) :
    topics[place]? = some topic :=
  (List.getElem?_zip_eq_some.mp here).2

theorem marked_append_singleton {headings : List Heading} {topics : List Topic}
    (given : List.Forall₂ Heading.Gives headings topics) (heading : Heading) (topic : Topic) :
    marked (headings ++ [heading]) (topics ++ [topic]) =
      marked headings topics ++ [(heading.entry.mark, topic)] := by
  unfold marked
  rw [List.map_append, List.zip_append (by rw [List.length_map, given.length_eq])]
  rfl

theorem mark_mem_of_marked {headings : List Heading} {topics : List Topic}
    (isMark : ∀ heading ∈ headings, heading.entry.mark ∈ marks) {mark : Char} {topic : Topic}
    (member : (mark, topic) ∈ marked headings topics) : mark ∈ marks := by
  obtain ⟨heading, here, rfl⟩ := List.mem_map.mp (List.of_mem_zip member).1
  exact isMark heading here

theorem firstTree_subset (headings : List Heading) : firstTree headings ⊆ headings := by
  cases headings with
  | nil => exact List.Subset.refl []
  | cons root others => exact List.cons_subset_cons root (List.takeWhile_subset _)

theorem length_marked {headings : List Heading} {topics : List Topic}
    (given : List.Forall₂ Heading.Gives headings topics) :
    (marked headings topics).length = topics.length := by
  rw [marked, List.length_zip, List.length_map, given.length_eq, Nat.min_self]

/-! ## Sides -/

/-- The side of the next topic that goes beside the root by turns, after a number of them. -/
def byTurns (earlier : Nat) : Side :=
  if earlier % 2 = 0 then .right else .left

theorem byTurns_ne_center (earlier : Nat) : byTurns earlier ≠ .center := by
  unfold byTurns
  split <;> exact nofun

/-- A sign leads to another side. -/
def Crosses (mark : Char) (side : Side) : Prop :=
  mark = '+' ∧ side = .left ∨ mark = '-' ∧ side = .right

/-- The topics right below the root that are written with stars. -/
def starred (root : String) (written : List (Char × Topic)) : List Topic :=
  (written.filter fun pair => pair.1 = '*' && pair.2.parent = some root).map Prod.snd

theorem starred_append_singleton (root : String) (written : List (Char × Topic)) (mark : Char)
    (topic : Topic) : starred root (written ++ [(mark, topic)]) =
      starred root written ++ if mark = '*' ∧ topic.parent = some root then [topic] else [] := by
  unfold starred
  rw [List.filter_append, List.map_append]
  by_cases star : mark = '*' ∧ topic.parent = some root
  · rw [if_pos star, List.filter_cons_of_pos (by simpa using star)]
    rfl
  · rw [if_neg star, List.filter_cons_of_neg (by simpa using star)]
    rfl

/-- A topic stands below another one, and no sign leads it to the other side. -/
def Continues (map : MindMap) (headings : List Heading) (parent topic : Topic) : Prop :=
  parent ∈ map.nodes.values ∧ topic.parent = some parent.name ∧
    ∃ mark, (mark, topic) ∈ marked headings map.nodes.values ∧ ¬ Crosses mark parent.side

/-- The topics of a map are those of some headings, and each is on the side that its mark and what it
stands below give to it. -/
structure Sided (map : MindMap) (headings : List Heading) : Prop where
  given : List.Forall₂ Heading.Gives headings map.nodes.values
  marks : ∀ heading ∈ headings, heading.entry.mark ∈ marks
  /-- The root stands in the middle, and nothing else does. -/
  center : ∀ topic ∈ map.nodes.values, topic.side = .center ↔ map.root? = some topic
  /-- Stars right below the root go right and left by turns. -/
  turns : ∀ root, map.root? = some root →
    (starred root.name (marked headings map.nodes.values)).map Topic.side =
      (List.range (starred root.name (marked headings map.nodes.values)).length).map byTurns
  plus : ∀ topic, ('+', topic) ∈ marked headings map.nodes.values → map.root? ≠ some topic →
    topic.side = .right
  minus : ∀ topic, ('-', topic) ∈ marked headings map.nodes.values → map.root? ≠ some topic →
    topic.side = .left
  /-- A deeper topic stays on the side of what it stands below, unless a sign leads it across. -/
  kept : ∀ parent topic, Continues map headings parent topic → map.root? ≠ some parent →
    topic.side = parent.side
  /-- So does everything below it that can be reached without such a sign. -/
  branch : ∀ top topic, Relation.ReflTransGen (Continues map headings) top topic →
    map.root? ≠ some top → topic.side = top.side

/-! ## The root -/

namespace Outlines

variable {map : MindMap} {headings : List Heading} {topic : Topic}

theorem exists_place (outlines : Outlines map headings) (member : topic ∈ map.nodes.values) :
    ∃ place : Nat, map.nodes.values[place]? = some topic ∧ topic.name = s!"n{place}" := by
  obtain ⟨place, here⟩ := List.mem_iff_getElem?.mp member
  refine ⟨place, here, ?_⟩
  have named : (map.nodes.values.map Topic.name)[place]? = some topic.name := by
    rw [List.getElem?_map, here]
    rfl
  rw [outlines.names, outlines.keys, List.getElem?_map] at named
  obtain ⟨number, inside, same⟩ := Option.map_eq_some_iff.mp named
  rw [← same, (List.getElem?_eq_some_iff.mp inside).2.symm, List.getElem_range]

theorem name_eq_iff (outlines : Outlines map headings) (member : topic ∈ map.nodes.values) :
    topic.name = s!"n{0}" ↔ topic.parent = none := by
  obtain ⟨place, here, named⟩ := outlines.exists_place member
  rw [outlines.root place topic here, named]
  constructor
  · exact fun same => numbered_injective "n" same
  · rintro rfl
    rfl

theorem root?_eq_some_iff (outlines : Outlines map headings) (member : topic ∈ map.nodes.values) :
    map.root? = some topic ↔ topic.parent = none := by
  constructor
  · intro root
    have rooted := List.find?_some (p := fun topic : Topic => topic.parent.isNone) root
    exact Option.isNone_iff_eq_none.mp rooted
  · intro none
    obtain ⟨place, here⟩ := List.mem_iff_getElem?.mp member
    obtain rfl := (outlines.root place topic here).mp none
    obtain ⟨others, same⟩ := List.head?_eq_some_iff.mp (List.head?_eq_getElem?.trans here)
    rw [root?, same, List.find?_cons_of_pos (by simp only [none, Option.isNone_none])]

theorem eq_of_name_eq (outlines : Outlines map headings) {other : Topic}
    (member : topic ∈ map.nodes.values) (known : other ∈ map.nodes.values)
    (same : topic.name = other.name) : topic = other := by
  refine List.inj_on_of_nodup_map ?_ member known same
  rw [outlines.names]
  exact map.nodes.nodup_keys

end Outlines

/-! ## What a draft keeps -/

namespace Draft

variable {draft : Draft} {done : List Heading} {parent : Ancestor}

theorem sideOf_none (none : draft.ancestors.head? = none) (mark : Char) :
    draft.sideOf mark = (.center, false) := by
  rw [sideOf, none]

theorem sideOf_plus (below : draft.ancestors.head? = some parent) :
    draft.sideOf '+' = (.right, false) := by
  rw [sideOf, below]
  rfl

theorem sideOf_minus (below : draft.ancestors.head? = some parent) :
    draft.sideOf '-' = (.left, false) := by
  rw [sideOf, below]
  rfl

theorem sideOf_star (below : draft.ancestors.head? = some parent) :
    draft.sideOf '*' =
      if parent.side = .center then (byTurns draft.balanced, true) else (parent.side, false) := by
  rw [sideOf, below]
  rfl

/-- What a mark says of the side of a topic below another one. -/
structure Beside (mark : Char) (parent topic : Topic) : Prop where
  plus : mark = '+' → topic.side = .right
  minus : mark = '-' → topic.side = .left
  star : mark = '*' → parent.side ≠ .center → topic.side = parent.side
  apart : topic.side ≠ .center

/-- A draft holds the outline of some headings, with the sides that their marks give, and has counted
those that go by turns. -/
structure Balances (draft : Draft) (done : List Heading) : Prop extends Follows draft done where
  center : ∀ topic ∈ draft.map.nodes.values, topic.parent = none → topic.side = .center
  beside : ∀ (place : Nat) (mark : Char) (topic parent : Topic),
    (marked done draft.map.nodes.values)[place]? = some (mark, topic) →
      above? (draft.map.nodes.values.take place) topic.level = some parent →
        Beside mark parent topic
  turns : (starred s!"n{0}" (marked done draft.map.nodes.values)).map Topic.side =
    (List.range draft.balanced).map byTurns
  sides : ∀ level, (draft.ancestors.find? (·.level < level)).map Ancestor.side =
    (above? draft.map.nodes.values level).map Topic.side

theorem balances_empty : Balances {} [] where
  toFollows := follows_empty
  sides _ := rfl
  center _ none := nomatch none
  beside _ _ _ _ none := nomatch none
  turns := rfl

/-- Nothing but the root stands in the middle. -/
theorem Balances.center_iff (balances : Balances draft done) {topic : Topic}
    (member : topic ∈ draft.map.nodes.values) : topic.side = .center ↔ topic.parent = none := by
  refine ⟨fun middle => ?_, balances.center topic member⟩
  by_contra below
  obtain ⟨place, here⟩ := List.mem_iff_getElem?.mp member
  obtain ⟨mark, written⟩ := exists_mark balances.given here
  rw [balances.parents place topic here, Option.map_eq_none_iff] at below
  obtain ⟨parent, found⟩ := Option.ne_none_iff_exists'.mp below
  exact (balances.beside place mark topic parent written found).apart middle

/-- What a new topic goes below, if there is something, is told by the ancestors as it is. -/
theorem Balances.parent_cases (balances : Balances draft done) (level : Nat) :
    (draft.backTo level).ancestors.head? = none ∧ above? draft.map.nodes.values level = none ∨
      ∃ ancestor parent, (draft.backTo level).ancestors.head? = some ancestor ∧
        above? draft.map.nodes.values level = some parent ∧ ancestor.name = parent.name ∧
          ancestor.side = parent.side := by
  have names := balances.chain level
  have sides := balances.sides level
  rw [← head?_backTo] at names sides
  cases found : (draft.backTo level).ancestors.head? with
  | none =>
      rw [found, Option.map_none] at names
      exact .inl ⟨rfl, Option.map_eq_none_iff.mp names.symm⟩
  | some ancestor =>
      rw [found, Option.map_some] at names sides
      obtain ⟨parent, above, name⟩ := Option.map_eq_some_iff.mp names.symm
      rw [above, Option.map_some] at sides
      exact .inr ⟨ancestor, parent, rfl, above, name.symm, Option.some.inj sides⟩

theorem Follows.exists_entered (follows : Follows draft done) (heading : Heading) :
    ∃ topic, ((draft.backTo heading.level).enter heading.entry heading.label).map.nodes.values =
        draft.map.nodes.values ++ [topic] ∧
      topic.level = heading.level ∧
      topic.parent = (draft.backTo heading.level).ancestors.head?.map Ancestor.name ∧
      topic.side = ((draft.backTo heading.level).sideOf heading.entry.mark).1 :=
  ⟨_, Table.values_insertNew follows.fresh, rfl, rfl, rfl⟩

theorem beside_sideOf {ancestor : Ancestor} {mark : Char} {parent topic : Topic}
    (below : draft.ancestors.head? = some ancestor) (isMark : mark ∈ marks)
    (side : topic.side = (draft.sideOf mark).1) (same : ancestor.side = parent.side) :
    Beside mark parent topic := by
  rcases mem_marks_iff.mp isMark with rfl | rfl | rfl
  case inl =>
    rw [sideOf_star below, same] at side
    refine ⟨fun other => absurd other (by decide), fun other => absurd other (by decide), ?_, ?_⟩
    · intro _ apart
      rw [side, if_neg apart]
    · rw [side]
      split
      · exact byTurns_ne_center _
      · assumption
  case inr.inl =>
    rw [sideOf_plus below] at side
    exact ⟨fun _ => side, fun other => absurd other (by decide), fun other => absurd other (by decide),
      side ▸ nofun⟩
  case inr.inr =>
    rw [sideOf_minus below] at side
    exact ⟨fun other => absurd other (by decide), fun _ => side, fun other => absurd other (by decide),
      side ▸ nofun⟩

theorem Balances.turn (balances : Balances draft done) (heading : Heading)
    (isMark : heading.entry.mark ∈ marks) {topic : Topic}
    (parent : topic.parent = (draft.backTo heading.level).ancestors.head?.map Ancestor.name)
    (side : topic.side = ((draft.backTo heading.level).sideOf heading.entry.mark).1) :
    if ((draft.backTo heading.level).sideOf heading.entry.mark).2 then
      (heading.entry.mark = '*' ∧ topic.parent = some s!"n{0}") ∧ topic.side = byTurns draft.balanced
    else ¬ (heading.entry.mark = '*' ∧ topic.parent = some s!"n{0}") := by
  rcases balances.parent_cases heading.level with
    ⟨root, _⟩ | ⟨ancestor, outer, here, above, name, sides⟩
  case inl =>
    rw [parent, root, sideOf_none root]
    exact fun below => nomatch below.2
  case inr =>
    rw [here, Option.map_some] at parent
    have known : outer ∈ draft.map.nodes.values := mem_of_above? above
    rcases mem_marks_iff.mp isMark with mark | mark | mark
    case inl =>
      have first : ancestor.side = .center ↔ ancestor.name = s!"n{0}" := by
        rw [sides, name, balances.center_iff known, balances.name_eq_iff known]
      rw [mark, sideOf_star here] at side ⊢
      rw [parent]
      by_cases middle : ancestor.side = .center
      · rw [if_pos middle] at side ⊢
        exact ⟨⟨rfl, congrArg some (first.mp middle)⟩, side⟩
      · rw [if_neg middle]
        exact fun below => middle (first.mpr (Option.some.inj below.2))
    case inr.inl =>
      rw [mark, sideOf_plus here]
      exact fun star => absurd star.1 (by decide)
    case inr.inr =>
      rw [mark, sideOf_minus here]
      exact fun star => absurd star.1 (by decide)

theorem Balances.enter (balances : Balances draft done) (heading : Heading)
    (isMark : heading.entry.mark ∈ marks)
    (below : done = [] ∨ above? draft.map.nodes.values heading.level ≠ none) :
    Balances ((draft.backTo heading.level).enter heading.entry heading.label)
      (done ++ [heading]) := by
  obtain ⟨topic, values, level, parent, side⟩ := balances.exists_entered heading
  have written := marked_append_singleton balances.given heading topic
  refine
    { toFollows := balances.toFollows.enter heading below
      center := ?center
      beside := ?beside
      turns := ?turns
      sides := ?sides }
  case center =>
    rw [values]
    intro other member root
    rcases List.mem_append.mp member with member | new
    · exact balances.center other member root
    · rw [List.mem_singleton.mp new] at root ⊢
      rw [parent, Option.map_eq_none_iff] at root
      rw [side, sideOf_none root]
  case beside =>
    rw [values, written]
    intro place mark other outer here above
    rcases getElem?_append_singleton_iff.mp here with ⟨before, here⟩ | ⟨behind, new⟩
    · rw [length_marked balances.given] at before
      rw [List.take_append_of_le_length (Nat.le_of_lt before)] at above
      exact balances.beside place mark other outer here above
    · rw [length_marked balances.given] at behind
      obtain ⟨rfl, rfl⟩ := Prod.mk.inj new
      rw [behind, List.take_left, level] at above
      rcases balances.parent_cases heading.level with
        ⟨_, none⟩ | ⟨ancestor, outer', here, above', _, sides⟩
      · exact nomatch none.symm.trans above
      · cases above'.symm.trans above
        exact beside_sideOf here isMark side sides
  case turns =>
    have turn := balances.turn heading isMark parent side
    have counted : ((draft.backTo heading.level).enter heading.entry heading.label).balanced =
        if ((draft.backTo heading.level).sideOf heading.entry.mark).2 then draft.balanced + 1
        else draft.balanced := rfl
    rw [values, written, counted, starred_append_singleton]
    cases byTurn : ((draft.backTo heading.level).sideOf heading.entry.mark).2 with
    | true =>
        rw [byTurn, if_pos rfl] at turn
        rw [if_pos rfl, if_pos turn.1, List.map_append, balances.turns, List.range_succ,
          List.map_append, List.map_singleton, List.map_singleton, turn.2]
    | false =>
        rw [byTurn, if_neg Bool.false_ne_true] at turn
        rw [if_neg Bool.false_ne_true, if_neg turn, List.append_nil, balances.turns]
  case sides =>
    rw [values]
    exact map_find?_enter balances.sides heading.level rfl level side.symm

/-- The first heading is entered into an empty draft, and the others of its tree below it. -/
theorem exists_balances {headings : List Heading}
    (isMark : ∀ heading ∈ headings, heading.entry.mark ∈ marks) :
    ∃ last, (headings.foldl Draft.receive {}).map = last.map ∧ Balances last (firstTree headings) := by
  cases headings with
  | nil => exact ⟨{}, rfl, balances_empty⟩
  | cons root others =>
      obtain ⟨first, each⟩ := List.forall_mem_cons.mp isMark
      rw [List.foldl_cons, follows_empty.receive_eq root (.inl rfl)]
      have entered := balances_empty.enter root first (.inl rfl)
      exact exists_foldl_receive (P := fun heading => heading.entry.mark ∈ marks)
        Balances.toFollows (fun heading isMark balances => balances.enter heading isMark) entered
        (fun _ none => nomatch none) each

theorem Balances.beside_of_parent (balances : Balances draft done) {place : Nat} {mark : Char}
    {topic parent : Topic}
    (here : (marked done draft.map.nodes.values)[place]? = some (mark, topic))
    (known : parent ∈ draft.map.nodes.values) (below : topic.parent = some parent.name) :
    Beside mark parent topic := by
  have parents := balances.parents place topic (getElem?_of_marked here)
  obtain ⟨outer, above, same⟩ := Option.map_eq_some_iff.mp (parents.symm.trans below)
  have outer_known : outer ∈ draft.map.nodes.values := List.mem_of_mem_take (mem_of_above? above)
  obtain rfl := balances.eq_of_name_eq outer_known known same
  exact balances.beside place mark topic outer here above

theorem Balances.exists_parent (balances : Balances draft done) {topic : Topic}
    (member : topic ∈ draft.map.nodes.values) (below : draft.map.root? ≠ some topic) :
    ∃ parent ∈ draft.map.nodes.values, topic.parent = some parent.name := by
  rw [Ne, balances.root?_eq_some_iff member] at below
  obtain ⟨place, here⟩ := List.mem_iff_getElem?.mp member
  have parents := balances.parents place topic here
  rw [parents, Option.map_eq_none_iff] at below
  obtain ⟨parent, above⟩ := Option.ne_none_iff_exists'.mp below
  exact ⟨parent, List.mem_of_mem_take (mem_of_above? above), by rw [parents, above]; rfl⟩

theorem Balances.kept (balances : Balances draft done) {parent topic : Topic}
    (isMark : ∀ heading ∈ done, heading.entry.mark ∈ marks)
    (continues : Continues draft.map done parent topic) (deeper : draft.map.root? ≠ some parent) :
    topic.side = parent.side := by
  obtain ⟨known, below, mark, member, straight⟩ := continues
  obtain ⟨place, here⟩ := List.mem_iff_getElem?.mp member
  have beside := balances.beside_of_parent here known below
  have apart : parent.side ≠ .center := by
    rwa [Ne, balances.center_iff known, ← balances.root?_eq_some_iff known]
  rcases mem_marks_iff.mp (mark_mem_of_marked isMark member) with rfl | rfl | rfl
  case inl => exact beside.star rfl apart
  case inr.inl =>
    rw [beside.plus rfl]
    cases side : parent.side with
    | center => exact absurd side apart
    | right => rfl
    | left => exact absurd (.inl ⟨rfl, side⟩) straight
  case inr.inr =>
    rw [beside.minus rfl]
    cases side : parent.side with
    | center => exact absurd side apart
    | left => rfl
    | right => exact absurd (.inr ⟨rfl, side⟩) straight

theorem Balances.sided (balances : Balances draft done)
    (isMark : ∀ heading ∈ done, heading.entry.mark ∈ marks) : Sided draft.map done where
  given := balances.given
  marks := isMark
  center topic member := by rw [balances.center_iff member, balances.root?_eq_some_iff member]
  turns root first := by
    have known : root ∈ draft.map.nodes.values := List.mem_of_find?_eq_some first
    have named : root.name = s!"n{0}" :=
      (balances.name_eq_iff known).mpr ((balances.root?_eq_some_iff known).mp first)
    have length := congrArg List.length balances.turns
    rw [List.length_map, List.length_map, List.length_range] at length
    rw [named, length, balances.turns]
  plus topic member below := by
    obtain ⟨place, here⟩ := List.mem_iff_getElem?.mp member
    obtain ⟨parent, known, under⟩ :=
      balances.exists_parent (List.mem_of_getElem? (getElem?_of_marked here)) below
    exact (balances.beside_of_parent here known under).plus rfl
  minus topic member below := by
    obtain ⟨place, here⟩ := List.mem_iff_getElem?.mp member
    obtain ⟨parent, known, under⟩ :=
      balances.exists_parent (List.mem_of_getElem? (getElem?_of_marked here)) below
    exact (balances.beside_of_parent here known under).minus rfl
  kept _ _ continues deeper := balances.kept isMark continues deeper
  branch top topic way deeper := by
    -- nothing on the way is the root, because it stands below something
    have both : topic.side = top.side ∧ draft.map.root? ≠ some topic := by
      induction way with
      | refl => exact ⟨rfl, deeper⟩
      | @tail middle last _ continues ih =>
          refine ⟨(balances.kept isMark continues ih.2).trans ih.1, ?_⟩
          obtain ⟨_, below, mark, member, _⟩ := continues
          have known : last ∈ draft.map.nodes.values := (List.of_mem_zip member).2
          rw [Ne, balances.root?_eq_some_iff known, below]
          exact nofun
    exact both.1

end Draft

/-- Whatever marks the topics are written with, only the root stands in the middle, stars below it go
right and left by turns, signs lead to their sides, and everything else stays with what it stands
below. -/
theorem sided_ofLines (lines : List Line) : Sided (ofLines lines).1 (firstTree (headings lines)) := by
  have isMark := mark_mem_headings lines
  obtain ⟨last, same, balances⟩ := Draft.exists_balances isMark
  have run : (ofLines lines).1 = ((headings lines).foldl Draft.receive {}).map :=
    congrArg Draft.map (readAll_eq_foldl {} lines)
  rw [run, same]
  exact balances.sided fun heading member => isMark heading (firstTree_subset _ member)

/-- A plus sign below a topic on the left leads back to the right. -/
theorem side_ne_of_plus :
    let map := (ofLines [⟨1, "* Root"⟩, ⟨2, "-- L"⟩, ⟨3, "+++ D"⟩]).1
    ∃ parent ∈ map.nodes.values, ∃ topic ∈ map.nodes.values, topic.parent = some parent.name ∧
      map.root? ≠ some parent ∧ topic.side ≠ parent.side := by
  decide +kernel

end DiagramMarkup.MindMap
