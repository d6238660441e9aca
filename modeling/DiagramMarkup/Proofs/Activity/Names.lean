import DiagramMarkup.Layout.Activity
import DiagramMarkup.Proofs.Activity.WellNested

/-! # The names in an activity

A note is written to a node that is drawn, and never to a marker. It is named after its node, so that
nodes and notes do not share any names.
-/

namespace DiagramMarkup

open ActivityDiagram

namespace ActivityDiagram

/-! ## Nodes with notes -/

/-- No marker has a note. -/
def Unmarked (nodes : List ActivityNode) : Prop :=
  ∀ node ∈ nodes, node.isMarker = true → node.note = none

variable {nodes : List ActivityNode} {node : ActivityNode} {draft next : Draft}

theorem Unmarked.append (unmarked : Unmarked nodes) (new : node.isMarker = true → node.note = none) :
    Unmarked (nodes ++ [node]) :=
  List.forall_mem_append.mpr ⟨unmarked, List.forall_mem_singleton.mpr new⟩

theorem Unmarked.append_drawn (unmarked : Unmarked nodes) (drawn : node.isMarker = false) :
    Unmarked (nodes ++ [node]) := by
  apply unmarked.append
  intro marker
  rw [drawn] at marker
  cases marker

/-- An item that a change of the last fitting one leaves behind is an old one, or the change of one
that fits. -/
theorem mem_changeLast {α : Type} {test : α → Bool} {f : α → α} {items : List α} {a : α}
    (member : a ∈ changeLast test f items) :
    a ∈ items ∨ ∃ b ∈ items, test b = true ∧ a = f b := by
  have first (l : List α) (member : a ∈ changeFirst test f l) :
      a ∈ l ∨ ∃ b ∈ l, test b = true ∧ a = f b := by
    induction l with
    | nil => exact .inl member
    | cons b l ih =>
        unfold changeFirst at member
        split at member
        · rename_i fits
          rcases List.mem_cons.mp member with rfl | behind
          · exact .inr ⟨b, List.mem_cons_self, fits, rfl⟩
          · exact .inl (List.mem_cons_of_mem b behind)
        · rcases List.mem_cons.mp member with rfl | behind
          · exact .inl List.mem_cons_self
          · rcases ih behind with old | ⟨c, here, fits, same⟩
            · exact .inl (List.mem_cons_of_mem b old)
            · exact .inr ⟨c, List.mem_cons_of_mem b here, fits, same⟩
  have found := first items.reverse (List.mem_reverse.mp member)
  simpa only [List.mem_reverse] using found

theorem Unmarked.attachNote (unmarked : Unmarked draft.nodes) (text : String) :
    Unmarked (draft.attachNote text).nodes := by
  intro node member marker
  rcases mem_changeLast member with old | ⟨origin, _, drawn, rfl⟩
  · exact unmarked node old marker
  · -- The new text changes no kind, and so a marker would have been one before.
    change origin.isMarker = true at marker
    rw [marker] at drawn
    cases drawn

theorem Unmarked.pushClosing (unmarked : Unmarked draft.nodes) (frame : ActivityDiagram.Frame)
    (label : Option String) : Unmarked (draft.pushClosing frame label).nodes :=
  unmarked.append fun _ => rfl

theorem Unmarked.move (unmarked : Unmarked draft.nodes) (move : Move draft next) :
    Unmarked next.nodes := by
  cases move with
  | alone node role opener =>
      exact unmarked.append_drawn (node.isMarker_eq.trans (congrArg Role.isSeparator role))
  | opens kind node role opener =>
      exact unmarked.append_drawn (node.isMarker_eq.trans (congrArg Role.isSeparator role))
  | separates kind node next role unnoted marked =>
      obtain ⟨frame, below, _, _, rfl⟩ := Draft.exists_of_mark? marked
      exact unmarked.append fun _ => unnoted
  | closes kind label next closed =>
      obtain ⟨frame, below, _, _, rfl⟩ := Draft.exists_of_close? closed
      exact Unmarked.pushClosing unmarked frame label
  | switchesLane name => exact unmarked
  | opensPartition name => exact unmarked
  | closesPartition next closed =>
      obtain ⟨place, places, _, rfl⟩ := Draft.exists_of_closePartition? closed
      exact unmarked
  | attachesNote text => exact unmarked.attachNote text
  | stays => exact unmarked

theorem Unmarked.finish (unmarked : Unmarked draft.nodes) : Unmarked draft.finish.nodes := by
  have closed : Unmarked
      (draft.frames.foldl (fun draft frame => draft.pushClosing frame none) draft).nodes :=
    List.foldlRecOn draft.frames _ (motive := fun draft : Draft => Unmarked draft.nodes) unmarked
      fun _ unmarked frame _ => unmarked.pushClosing frame none
  simpa only [Draft.finish, Nesting.endPartitions_nodes] using closed

theorem unmarked_draftOfLines (lines : List Line) : Unmarked (draftOfLines lines).1.nodes := by
  have reached : Unmarked (readAll turn {} lines).1.nodes :=
    readAll_invariant (P := fun draft : Draft => Unmarked draft.nodes)
      (fun draft line rest unmarked => unmarked.move (Move.of_turn draft line rest))
      (fun _ member => absurd member List.not_mem_nil) lines
  exact reached.finish

/-! ## Names -/

/-- The names of the notes. -/
def noteNames (d : ActivityDiagram) : List String :=
  d.nodes.filterMap fun node => node.note.map fun _ => node.noteName

theorem not_mem_nodeName (place : Nat) : '-' ∉ (nodeName place).toList := by
  intro member
  have letters : (nodeName place).toList = 'a' :: Nat.toDigits 10 place := by
    rw [nodeName, ← Nat.toList_repr]
    exact String.toList_append
  rw [letters] at member
  rcases List.mem_cons.mp member with same | digit
  · cases same
  · cases Nat.isDigit_of_mem_toDigits (by omega) (by omega) digit

theorem noteName_ne_nodeName (node : ActivityNode) (place : Nat) : node.noteName ≠ nodeName place := by
  intro same
  apply not_mem_nodeName place
  rw [← same, ActivityNode.noteName, String.toList_append]
  exact List.mem_append_right _ (by decide)

theorem noteName_injective {node other : ActivityNode} (same : node.noteName = other.noteName) :
    node.name = other.name :=
  (String.append_left_inj "-note").mp same

variable {d : ActivityDiagram}

theorem nodup_names (nested : Nesting.Nested d.nodes []) :
    (d.visibleNodes.map ActivityNode.name ++ d.noteNames).Nodup := by
  have distinct := nested.nodup
  rw [List.nodup_append']
  refine ⟨distinct.sublist (List.filter_sublist.map _), ?notes, ?apart⟩
  case notes =>
    refine (List.pairwise_map.mp distinct).filterMap _ ?_
    intro node other apart name note name' note' same
    obtain ⟨_, _, rfl⟩ := Option.map_eq_some_iff.mp note
    obtain ⟨_, _, rfl⟩ := Option.map_eq_some_iff.mp note'
    exact apart (noteName_injective same)
  case apart =>
    intro name visible commented
    obtain ⟨node, member, rfl⟩ := List.mem_map.mp visible
    obtain ⟨place, here⟩ := List.mem_iff_getElem?.mp (List.mem_filter.mp member).1
    obtain ⟨other, _, note⟩ := List.mem_filterMap.mp commented
    obtain ⟨_, _, same⟩ := Option.map_eq_some_iff.mp note
    exact noteName_ne_nodeName other place (same.trans (nested.name_eq here))

end ActivityDiagram

end DiagramMarkup
