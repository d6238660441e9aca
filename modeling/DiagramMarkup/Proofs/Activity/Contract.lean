import DiagramMarkup.Proofs.Activity.ControlFlow
import DiagramMarkup.Proofs.Success

/-! # The flow of any list of nodes

Nodes need not be nested to have a flow: closings may be missing, repeated or in front of what they
close. Where control goes on is always a node that is drawn, or else there is no flow. The way back of
a loop is the exception. It is looked up by a name, and by the empty one where the loop has none, so
that it may end at a marker.
-/

namespace DiagramMarkup.Flow

variable {nodes part : List ActivityNode} {node : ActivityNode} {place : Nat}

/-! ## Places -/

theorem mem_places_from {test : ActivityNode → Bool} {start : Nat} :
    place ∈ places test nodes start ↔
      ∃ i node, place = start + i ∧ nodes[i]? = some node ∧ test node = true := by
  induction nodes generalizing start with
  | nil =>
      constructor
      · exact fun member => absurd member List.not_mem_nil
      · rintro ⟨i, node, _, here, _⟩
        exact nomatch here
  | cons first rest ih =>
      have split : place ∈ places test (first :: rest) start ↔
          (place = start ∧ test first = true) ∨ place ∈ places test rest (start + 1) := by
        rw [places]
        split
        next fits => simp only [List.mem_cons, fits, and_true]
        next other => simp only [other, Bool.false_eq_true, and_false, false_or]
      rw [split, ih]
      constructor
      · rintro (⟨rfl, fits⟩ | ⟨i, node, rfl, here, fits⟩)
        · exact ⟨0, first, rfl, rfl, fits⟩
        · exact ⟨i + 1, node, by omega, here, fits⟩
      · rintro ⟨i, node, rfl, here, fits⟩
        cases i with
        | zero =>
            obtain rfl := Option.some.inj here
            exact .inl ⟨rfl, fits⟩
        | succ i => exact .inr ⟨i, node, by omega, here, fits⟩

theorem mem_places {test : ActivityNode → Bool} :
    place ∈ places test nodes ↔ ∃ node, nodes[place]? = some node ∧ test node = true := by
  rw [mem_places_from]
  constructor
  · rintro ⟨i, node, rfl, here, fits⟩
    rw [Nat.zero_add]
    exact ⟨node, here, fits⟩
  · rintro ⟨node, here, fits⟩
    exact ⟨place, node, (Nat.zero_add place).symm, here, fits⟩

theorem place_eq_of_name (distinct : (nodes.map ActivityNode.name).Nodup) {p q : Nat}
    {a b : ActivityNode} (here : nodes[p]? = some a) (there : nodes[q]? = some b)
    (same : a.name = b.name) : p = q := by
  obtain ⟨inside, _⟩ := List.getElem?_eq_some_iff.mp here
  apply (List.getElem?_inj (by rwa [List.length_map]) distinct).mp
  rw [List.getElem?_map, List.getElem?_map, here, there]
  exact congrArg some same

/-! ## Where exits lead -/

/-- A node that is drawn stands at a place. -/
def DrawnAt (nodes : List ActivityNode) (place : Nat) : Prop :=
  ∃ node, nodes[place]? = some node ∧ node.isMarker = false

theorem ensures_closing (opener : String) : Ensures (DrawnAt nodes) (closing nodes opener) := by
  unfold closing
  cases last : (places (fun n => n.isClosing && n.opener = some opener) nodes).getLast? with
  | none => exact fun _ none => nomatch none
  | some place =>
      obtain ⟨node, here, closes⟩ := mem_places.mp (List.mem_of_getLast? last)
      refine ensures_ok ⟨node, here, ?_⟩
      have ends : node.role.isEnd = true :=
        node.isClosing_eq ▸ (Bool.and_eq_true_iff.mp closes).1
      rw [node.isMarker_eq]
      cases role : node.role with
      | closes kind => rfl
      | alone | opens kind | separates kind =>
          rw [role] at ends
          cases ends

theorem ensures_next (place : Nat) :
    Ensures (fun target => ∀ goal ∈ target, DrawnAt nodes goal) (next nodes place) := by
  unfold next
  cases here : nodes[place + 1]? with
  | none => exact ensures_ok fun _ member => nomatch member
  | some node =>
      dsimp only
      split
      · cases node.opener with
        | none => exact fun _ none => nomatch none
        | some opener =>
            rintro _ found
            obtain ⟨goal, closed, rfl⟩ := exists_of_map_eq_ok found
            rintro _ member
            obtain rfl := Option.some.inj member
            exact ensures_closing opener goal closed
      · next drawn =>
        refine ensures_ok fun _ member => ?_
        obtain rfl := Option.some.inj member
        exact ⟨node, here, Bool.eq_false_iff.mpr drawn⟩

/-- Exits lead to nodes that are drawn. -/
abbrev LeadsDrawn (nodes : List ActivityNode) (found : Except FlowFault (List Exit)) : Prop :=
  Ensures (fun exits => ∀ exit ∈ exits, DrawnAt nodes exit.target) found

theorem leadsDrawn_onward (place : Nat) (label : Option String) :
    LeadsDrawn nodes (onward nodes place label) := by
  refine (ensures_next place).bind fun target drawn => ensures_ok fun exit member => ?_
  obtain ⟨goal, here, rfl⟩ := List.mem_map.mp member
  exact drawn goal (Option.mem_toList.mp here)

theorem LeadsDrawn.append {found others : Except FlowFault (List Exit)}
    (first : LeadsDrawn nodes found) (second : LeadsDrawn nodes others) :
    LeadsDrawn nodes (do return (← found) ++ (← others)) :=
  first.bind fun _ here => second.bind fun _ there =>
    ensures_ok (List.forall_mem_append.mpr ⟨here, there⟩)

theorem leadsDrawn_branches (label : ActivityNode → Option String) (markers : List Nat) :
    LeadsDrawn nodes (branches nodes label markers) := by
  induction markers with
  | nil => exact ensures_ok fun _ member => absurd member List.not_mem_nil
  | cons place markers ih => exact (leadsDrawn_onward place _).append ih

/-- A node closes a loop, and at a place stands a node of the name that it gives for the start of the
loop, which is the empty name where it gives none. -/
def GoesBackTo (nodes : List ActivityNode) (node : ActivityNode) (place : Nat) : Prop :=
  node.role = .closes .loop ∧ ∃ goal, nodes[place]? = some goal ∧ goal.name = node.opener.getD ""

/-- Every exit leads to a node that is drawn, but for the way back of a loop. -/
theorem ensures_exits (place : Nat) (node : ActivityNode) :
    Ensures (fun exits => ∀ exit ∈ exits,
      DrawnAt nodes exit.target ∨ GoesBackTo nodes node exit.target) (exits nodes place node) := by
  have drawn {found : Except FlowFault (List Exit)} (leads : LeadsDrawn nodes found) :
      Ensures (fun exits => ∀ exit ∈ exits,
        DrawnAt nodes exit.target ∨ GoesBackTo nodes node exit.target) found :=
    leads.imp fun all exit member => .inl (all exit member)
  have none : LeadsDrawn nodes (.ok []) := ensures_ok fun _ member => absurd member List.not_mem_nil
  rw [exits_eq]
  cases role : node.role with
  | alone =>
      dsimp only
      split
      · exact drawn none
      · exact drawn (leadsDrawn_onward place _)
  | separates kind => exact drawn none
  | closes kind =>
      cases kind with
      | loop =>
          dsimp only
          cases first : (places (fun n => n.name = node.opener.getD "") nodes).head? with
          | none => exact fun _ none => nomatch none
          | some target =>
              obtain ⟨goal, here, same⟩ := mem_places.mp (List.mem_of_head? first)
              refine ensures_ok (List.forall_mem_singleton.mpr (.inr ⟨role, goal, here, ?_⟩))
              exact of_decide_eq_true same
      | conditional | fork => exact drawn (leadsDrawn_onward place _)
  | opens kind =>
      cases kind with
      | loop =>
          refine drawn ((leadsDrawn_onward place _).bind fun _ body => ?_)
          refine (ensures_closing node.name).bind fun merge _ => ?_
          refine (leadsDrawn_onward merge _).bind fun _ out => ?_
          exact ensures_ok (List.forall_mem_append.mpr ⟨body, out⟩)
      | fork => exact drawn ((leadsDrawn_onward place _).append (leadsDrawn_branches _ _))
      | conditional =>
          refine drawn ((leadsDrawn_onward place _).bind fun _ first => ?_)
          refine (leadsDrawn_branches _ _).bind fun _ others => ?_
          have both := List.forall_mem_append.mpr ⟨first, others⟩
          dsimp only
          split
          · exact ensures_ok both
          · refine (ensures_closing node.name).bind fun merge closes => ?_
            exact ensures_ok
              (List.forall_mem_append.mpr ⟨both, List.forall_mem_singleton.mpr closes⟩)

/-- A stop has no exits, and neither has a marker. -/
theorem exits_eq_nil (silent : node.isMarker = true ∨ node.kind = .stop) (place : Nat) :
    exits nodes place node = .ok [] := by
  rw [node.isMarker_eq] at silent
  rw [exits_eq]
  cases role : node.role with
  | separates kind => rfl
  | alone =>
      rw [role] at silent
      exact if_pos (silent.resolve_left Bool.false_ne_true)
  | opens kind | closes kind =>
      rw [role] at silent
      have stop : node.kind = .stop := silent.resolve_left Bool.false_ne_true
      have alone : node.role = .alone := by rw [ActivityNode.role, stop]
      cases alone.symm.trans role

/-! ## Edges -/

variable {relations : List Relation} {r : Relation}

theorem nodup_distinct (exits : List Exit) : ((distinct exits).map Exit.target).Nodup := by
  unfold distinct
  refine List.foldlRecOn exits _ (motive := fun kept : List Exit => (kept.map Exit.target).Nodup)
    List.nodup_nil fun kept nodup exit _ => ?_
  split
  · exact nodup
  · next fresh =>
    rw [List.map_append]
    refine nodup.append (List.nodup_singleton _) fun target known last => fresh ?_
    obtain rfl := List.mem_singleton.mp last
    obtain ⟨k, member, same⟩ := List.mem_map.mp known
    exact List.any_eq_true.mpr ⟨k, member, decide_eq_true same⟩

theorem exists_of_edgesFrom_cons
    (found : edgesFrom nodes place (node :: part) = .ok relations) :
    ∃ here others, exits nodes place node = .ok here ∧
      edgesFrom nodes (place + 1) part = .ok others ∧
      relations = (distinct here).map (edge nodes node.name) ++ others := by
  rw [edgesFrom] at found
  cases here : exits nodes place node with
  | error fault =>
      rw [here] at found
      cases found
  | ok exits =>
      cases there : edgesFrom nodes (place + 1) part with
      | error fault =>
          rw [here, there] at found
          cases found
      | ok others =>
          rw [here, there] at found
          exact ⟨exits, others, rfl, rfl, (Except.ok.inj found).symm⟩

theorem exists_of_mem_edgesFrom (found : edgesFrom nodes place part = .ok relations)
    (member : r ∈ relations) :
    ∃ i node here, part[i]? = some node ∧ exits nodes (place + i) node = .ok here ∧
      ∃ exit ∈ here, edge nodes node.name exit = { r with label := nonempty? exit.label } := by
  induction part generalizing place relations with
  | nil =>
      cases Except.ok.inj found
      exact absurd member List.not_mem_nil
  | cons node part ih =>
      obtain ⟨here, others, exits, rest, rfl⟩ := exists_of_edgesFrom_cons found
      rcases List.mem_append.mp member with first | later
      · obtain ⟨kept, known, rfl⟩ := List.mem_map.mp first
        obtain ⟨exit, there, same⟩ :=
          List.mem_map.mp ((target_mem_distinct here kept.target).mp (List.mem_map_of_mem known))
        refine ⟨0, node, here, rfl, exits, exit, there, ?_⟩
        unfold edge
        rw [same]
      · obtain ⟨i, other, here, at_i, found, rest⟩ := ih rest later
        refine ⟨i + 1, other, here, at_i, ?_, rest⟩
        rwa [Nat.add_right_comm] at found

theorem exists_exits_of_edgesFrom {i : Nat} (found : edgesFrom nodes place part = .ok relations)
    (at_i : part[i]? = some node) :
    ∃ here, exits nodes (place + i) node = .ok here ∧
      (distinct here).map (edge nodes node.name) ⊆ relations := by
  induction part generalizing place relations i with
  | nil => exact nomatch at_i
  | cons first part ih =>
      obtain ⟨here, others, exits, rest, rfl⟩ := exists_of_edgesFrom_cons found
      cases i with
      | zero =>
          obtain rfl := Option.some.inj at_i
          exact ⟨here, exits, List.subset_append_left _ _⟩
      | succ i =>
          obtain ⟨here, found, inside⟩ := ih rest at_i
          refine ⟨here, ?_, fun r member => List.mem_append_right _ (inside member)⟩
          rwa [Nat.add_right_comm] at found

theorem nameAt_eq (here : nodes[place]? = some node) : nameAt nodes place = node.name := by
  rw [nameAt, here]
  rfl

/-- No two edges have the same ends. -/
theorem nodup_ends_edgesFrom (distinct : (nodes.map ActivityNode.name).Nodup)
    (names : (part.map ActivityNode.name).Nodup)
    (found : edgesFrom nodes place part = .ok relations) : (relations.map Relation.ends).Nodup := by
  induction part generalizing place relations with
  | nil =>
      cases Except.ok.inj found
      exact List.nodup_nil
  | cons node part ih =>
      obtain ⟨fresh, names⟩ := List.nodup_cons.mp names
      obtain ⟨here, others, exits, rest, rfl⟩ := exists_of_edgesFrom_cons found
      have own : ((Flow.distinct here).map (edge nodes node.name)).map Relation.ends =
          ((Flow.distinct here).map Exit.target).map fun target =>
            (node.name, nameAt nodes target) := by
        rw [List.map_map, List.map_map]
        rfl
      have stands {target : Nat} (member : target ∈ (Flow.distinct here).map Exit.target) :
          ∃ goal, nodes[target]? = some goal := by
        obtain ⟨exit, known, rfl⟩ := List.mem_map.mp ((target_mem_distinct here target).mp member)
        rcases ensures_exits place node here exits exit known with ⟨goal, at_goal, _⟩ | ⟨_, goal, at_goal, _⟩
        · exact ⟨goal, at_goal⟩
        · exact ⟨goal, at_goal⟩
      rw [List.map_append]
      refine List.Nodup.append ?own (ih names rest) ?apart
      case own =>
        rw [own]
        refine List.Nodup.map_on ?_ (nodup_distinct here)
        intro p left q right same
        obtain ⟨a, at_a⟩ := stands left
        obtain ⟨b, at_b⟩ := stands right
        have names := congrArg Prod.snd same
        dsimp only at names
        rw [nameAt_eq at_a, nameAt_eq at_b] at names
        exact place_eq_of_name distinct at_a at_b names
      case apart =>
        intro pair first later
        rw [own] at first
        obtain ⟨target, _, rfl⟩ := List.mem_map.mp first
        obtain ⟨r, member, same⟩ := List.mem_map.mp later
        obtain ⟨i, other, _, at_i, _, exit, _, edge⟩ := exists_of_mem_edgesFrom rest member
        apply fresh
        have source : other.name = node.name :=
          (congrArg Relation.source edge).trans (congrArg Prod.fst same)
        exact source ▸ List.mem_map_of_mem (List.mem_of_getElem? at_i)

/-! ## The contract -/

/-- Transitions from nodes that are drawn and are no stops, to nodes, and at most one between two. -/
structure IsFlow (nodes : List ActivityNode) (relations : List Relation) : Prop where
  transitions : ∀ r ∈ relations, r.kind = .transition
  sources : ∀ r ∈ relations,
    ∃ node ∈ nodes, node.name = r.source ∧ node.isMarker = false ∧ node.kind ≠ .stop
  targets : ∀ r ∈ relations, ∃ goal ∈ nodes, goal.name = r.target
  distinct : (relations.map Relation.ends).Nodup

/-- The node of the name that a loop gives for its start is drawn, if there is one; a loop that gives no
name gives the empty one. -/
def LoopsDrawn (nodes : List ActivityNode) : Prop :=
  ∀ merge ∈ nodes, merge.kind = .merge → merge.looping = true →
    ∀ goal ∈ nodes, goal.name = merge.opener.getD "" → goal.isMarker = false

theorem role_eq_closes_loop :
    node.role = .closes .loop ↔ node.kind = .merge ∧ node.looping = true := by
  unfold ActivityNode.role ActivityNode.branching
  cases node.kind <;> cases node.looping <;> simp

/-- An edge leads from a node that is drawn, and no stop, to a node that is drawn, or back in a loop. -/
theorem exists_ends_of_mem_edges (found : edges nodes = .ok relations) (member : r ∈ relations) :
    r.kind = .transition ∧
      (∃ node ∈ nodes, node.name = r.source ∧ node.isMarker = false ∧ node.kind ≠ .stop ∧
        ∃ goal ∈ nodes, goal.name = r.target ∧ (goal.isMarker = false ∨
          node.role = .closes .loop ∧ goal.name = node.opener.getD "")) := by
  obtain ⟨i, node, here, at_i, exits, exit, known, same⟩ := exists_of_mem_edgesFrom found member
  have source : node.name = r.source := congrArg Relation.source same
  have target : nameAt nodes exit.target = r.target := congrArg Relation.target same
  refine ⟨(congrArg Relation.kind same).symm, node, List.mem_of_getElem? at_i, source, ?_⟩
  have heard : ¬ (node.isMarker = true ∨ node.kind = .stop) := by
    intro silent
    rw [exits_eq_nil silent] at exits
    cases Except.ok.inj exits
    exact absurd known List.not_mem_nil
  obtain ⟨drawn, goes_on⟩ := not_or.mp heard
  refine ⟨Bool.eq_false_iff.mpr drawn, goes_on, ?_⟩
  rcases ensures_exits _ node here exits exit known with
    ⟨goal, at_goal, drawn⟩ | ⟨role, goal, at_goal, back⟩
  · rw [nameAt_eq at_goal] at target
    exact ⟨goal, List.mem_of_getElem? at_goal, target, .inl drawn⟩
  · rw [nameAt_eq at_goal] at target
    exact ⟨goal, List.mem_of_getElem? at_goal, target, .inr ⟨role, back⟩⟩

/-- The way back of a loop is one of the edges. -/
theorem exists_edge_of_loop (found : edges nodes = .ok relations) {merge goal : ActivityNode}
    (member : merge ∈ nodes) (role : merge.role = .closes .loop) (known : goal ∈ nodes)
    (named : goal.name = merge.opener.getD "") : ∃ r ∈ relations, r.target = goal.name := by
  obtain ⟨i, at_i⟩ := List.mem_iff_getElem?.mp member
  obtain ⟨here, exits, inside⟩ := exists_exits_of_edgesFrom found at_i
  obtain ⟨place, at_goal⟩ := List.mem_iff_getElem?.mp known
  have listed : place ∈ places (fun n => n.name = merge.opener.getD "") nodes :=
    mem_places.mpr ⟨goal, at_goal, decide_eq_true named⟩
  rw [exits_eq, role] at exits
  dsimp only at exits
  cases first : (places (fun n => n.name = merge.opener.getD "") nodes).head? with
  | none => exact absurd (List.head?_eq_none_iff.mp first) (List.ne_nil_of_mem listed)
  | some target =>
      rw [first] at exits
      cases Except.ok.inj exits
      obtain ⟨other, at_other, same⟩ := mem_places.mp (List.mem_of_head? first)
      refine ⟨_, inside (List.mem_singleton_self (edge nodes merge.name ⟨target, none⟩)), ?_⟩
      change nameAt nodes target = goal.name
      rw [nameAt_eq at_other, of_decide_eq_true same, named]

/-- Whatever the list of nodes, where their names are distinct the edges are transitions between nodes
of the list, none from a marker or a stop, and no two between the same nodes. All of them end at nodes
that are drawn exactly where no way back of a loop leads to a marker. -/
theorem isFlow_edges (distinct : (nodes.map ActivityNode.name).Nodup) :
    Ensures (fun relations => IsFlow nodes relations ∧
      ((∀ r ∈ relations, ∃ goal ∈ nodes, goal.name = r.target ∧ goal.isMarker = false) ↔
        LoopsDrawn nodes)) (edges nodes) := by
  intro relations found
  have ends {r : Relation} (member : r ∈ relations) := exists_ends_of_mem_edges found member
  refine ⟨?flow, ?drawn, ?loops⟩
  case flow =>
    exact {
      transitions := fun r member => (ends member).1
      sources := fun r member => by
        obtain ⟨_, node, here, source, drawn, goes_on, _⟩ := ends member
        exact ⟨node, here, source, drawn, goes_on⟩
      targets := fun r member => by
        obtain ⟨_, _, _, _, _, _, goal, here, target, _⟩ := ends member
        exact ⟨goal, here, target⟩
      distinct := nodup_ends_edgesFrom distinct distinct found }
  case drawn =>
    intro drawn merge member kind looping goal known named
    have role := role_eq_closes_loop.mpr ⟨kind, looping⟩
    obtain ⟨r, edge, target⟩ := exists_edge_of_loop found member role known named
    obtain ⟨other, here, same, unmarked⟩ := drawn r edge
    rwa [List.inj_on_of_nodup_map distinct known here (target.symm.trans same.symm)]
  case loops =>
    intro loops r member
    obtain ⟨_, node, here, _, _, _, goal, known, target, drawn | ⟨role, named⟩⟩ := ends member
    · exact ⟨goal, known, target, drawn⟩
    · obtain ⟨kind, looping⟩ := role_eq_closes_loop.mp role
      exact ⟨goal, known, target, loops node here kind looping goal known named⟩

/-- Markers in front of their loop, and a merge that closes it twice. -/
theorem isFlow_edges_unnested :
    let merge (name : String) : ActivityNode :=
      { name, kind := .merge, label := "", opener := some "loop", looping := true }
    let nodes : List ActivityNode :=
      [{ name := "first", kind := .action, label := "" },
        { name := "else", kind := .elseMarker, label := "", opener := some "loop" }, merge "early",
        { name := "loop", kind := .decision, label := "", looping := true }, merge "late",
        { name := "last", kind := .stop, label := "" }]
    (nodes.map ActivityNode.name).Nodup ∧ ∃ relations, edges nodes = .ok relations ∧
      relations.map Relation.ends =
        [("first", "late"), ("early", "loop"), ("loop", "late"), ("loop", "last"), ("late", "loop")] ∧
      IsFlow nodes relations ∧
        ((∀ r ∈ relations, ∃ goal ∈ nodes, goal.name = r.target ∧ goal.isMarker = false) ↔
          LoopsDrawn nodes) := by
  intro merge nodes
  have distinct : (nodes.map ActivityNode.name).Nodup := by decide
  exact ⟨distinct, _, rfl, by decide, isFlow_edges distinct _ rfl⟩

/-- A loop that gives no name for its start goes back to a marker without a name. -/
theorem edge_to_unnamed_marker :
    let merge : ActivityNode := { name := "m", kind := .merge, label := "", looping := true }
    let marker : ActivityNode := { name := "", kind := .elseMarker, label := "" }
    ([merge, marker].map ActivityNode.name).Nodup ∧ merge.opener = none ∧
      edges [merge, marker] = .ok [{ source := "m", target := "", kind := .transition }] ∧
        marker.isMarker = true := by
  decide

end DiagramMarkup.Flow
