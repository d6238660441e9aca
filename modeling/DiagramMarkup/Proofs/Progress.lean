import DiagramMarkup.Proofs.Reading
import DiagramMarkup.Reading.Engine
import Mathlib.Logic.Function.Iterate

/-! # Every reading goes on and ends

Places in a list of lines are counted from zero. A reader that starts at a place goes on to a place
below: the next one, or the one behind the first line that ends its construct, or the end of all
lines where no line ends it. So a reading takes no more turns than there are lines, whatever is
missing.
-/

namespace DiagramMarkup

open Phrase

/-! ## Places -/

/-- The place behind the first line below another place that satisfies a test, or behind all lines
if none does. -/
def placeBehind (ends : Line → Bool) (lines : List Line) (place : Nat) : Nat :=
  min (place + 1 + (lines.drop (place + 1)).findIdx ends + 1) lines.length

/-- What a reader leaves that started at a place: all lines from some place below. That is the next
place, or the one behind the construct, which ends with a line of one of some sorts. -/
def GoesOn (endings : List (Line → Bool)) (lines : List Line) (place : Nat) (left : List Line) :
    Prop :=
  ∃ next, place < next ∧ next ≤ lines.length ∧ left = lines.drop next ∧
    (next = place + 1 ∨ ∃ ends ∈ endings, next = placeBehind ends lines place)

theorem upTo_drop (ends : Line → Bool) (lines : List Line) (place : Nat) :
    (upTo ends (lines.drop (place + 1))).2.1 = lines.drop (placeBehind ends lines place) := by
  rw [(upTo_eq ends _).2, List.dropWhile_eq_drop_findIdx_not]
  simp only [Bool.not_not, List.tail_drop, List.drop_drop]
  rcases Nat.le_total (place + 1 + (lines.drop (place + 1)).findIdx ends + 1) lines.length
    with inside | outside
  · rw [placeBehind, Nat.min_eq_left inside]
  · rw [placeBehind, Nat.min_eq_right outside, List.drop_length]
    exact List.drop_of_length_le outside

/-- The line that ends a construct is taken, whether it belongs to the construct or not. -/
theorem through_left (ends : Line → Bool) (lines : List Line) :
    (through ends lines).2.1 = (upTo ends lines).2.1 := by
  induction lines with
  | nil => rfl
  | cons line lines ih =>
      rw [through, upTo]
      split
      · rfl
      · exact ih

namespace GoesOn

variable {endings : List (Line → Bool)} {ends : Line → Bool} {lines : List Line} {place : Nat}

theorem alone (here : place < lines.length) : GoesOn endings lines place (lines.drop (place + 1)) :=
  ⟨place + 1, Nat.lt_succ_self place, here, rfl, .inl rfl⟩

theorem behind (here : place < lines.length) (member : ends ∈ endings) :
    GoesOn endings lines place (lines.drop (placeBehind ends lines place)) := by
  refine ⟨placeBehind ends lines place, ?_, Nat.min_le_right .., rfl, .inr ⟨ends, member, rfl⟩⟩
  unfold placeBehind
  omega

theorem upTo (here : place < lines.length) (member : ends ∈ endings) :
    GoesOn endings lines place (upTo ends (lines.drop (place + 1))).2.1 :=
  upTo_drop ends lines place ▸ behind here member

theorem through (here : place < lines.length) (member : ends ∈ endings) :
    GoesOn endings lines place (through ends (lines.drop (place + 1))).2.1 :=
  through_left ends _ ▸ upTo here member

end GoesOn

/-! ## Where constructs end -/

namespace Line

def endsNote (line : Line) : Bool :=
  Phrase.endsNote line.text

/-- A line that ends a note of a conversation. -/
def endsAnyNote (line : Line) : Bool :=
  SequenceDiagram.endsAnyNote line.text

/-- A line that ends the body of a class or an entity. -/
def endsBody (line : Line) : Bool :=
  Text.hasStart ['}'] line.chars

/-- A line that ends the text of an action or a topic. -/
def endsText (line : Line) : Bool :=
  Text.hasEnd [';'] line.chars

end Line

/-- The lines that end constructs of several lines in a kind of diagram. -/
def Kind.endings : Kind → List (Line → Bool)
  | .classes => [Line.endsNote, Line.endsBody]
  | .sequence => [Line.endsAnyNote]
  | .states => [Line.endsNote]
  | .mindMap => [Line.endsText]
  | .entities => [Line.endsBody]
  | .deployment => [Line.endsNote]
  | .useCases => [Line.endsNote]
  | .activity => [Line.endsNote, Line.endsText]

section Readers

variable {endings : List (Line → Bool)} {lines : List Line} {place : Nat}
  (here : place < lines.length) {line : Line}

include here

theorem goesOn_gridNote (note : Line.endsNote ∈ endings) {index : Nat}
    {result : Note × Remaining (lines.drop (place + 1))}
    (read : gridNote? index line (lines.drop (place + 1)) = some result) :
    GoesOn endings lines place result.2.1 := by
  unfold gridNote? at read
  dsimp only at read
  split at read
  · cases read
  · cases read
    exact .alone here
  · cases read
    exact .upTo here note
  · split at read
    · cases read
      exact .alone here
    · cases read
      exact .upTo here note

namespace ClassDiagram

theorem goesOn_readBody (ends : Line.endsBody ∈ endings) (body : Body) :
    GoesOn endings lines place (readBody (lines.drop (place + 1)) body).2.1 := by
  cases body with
  | absent => exact .alone here
  | inline members => exact .alone here
  | below => exact .upTo here ends

theorem goesOn_declare (body : Line.endsBody ∈ endings) (d : ClassDiagram) (kind : ClassKind)
    (declaration : List Char) :
    GoesOn endings lines place (d.declare kind declaration (lines.drop (place + 1))).left.1 := by
  unfold ClassDiagram.declare
  dsimp only
  split
  · exact .alone here
  · exact goesOn_readBody here body _

theorem goesOn_turn (d : ClassDiagram) :
    GoesOn Kind.classes.endings lines place (turn d line (lines.drop (place + 1))).left.1 := by
  fun_cases turn d line (lines.drop (place + 1))
  case case1 read => exact goesOn_gridNote here (.head _) read
  case case2 => exact goesOn_declare here (.tail _ (.head _)) d _ _
  all_goals exact .alone here

end ClassDiagram

namespace SequenceDiagram

theorem goesOn_note (note : Line.endsAnyNote ∈ endings) {d : SequenceDiagram}
    {result : SequenceDiagram × Remaining (lines.drop (place + 1))}
    (read : d.note? line (lines.drop (place + 1)) = some result) :
    GoesOn endings lines place result.2.1 := by
  unfold note? at read
  dsimp only at read
  split at read
  · cases read
  · split at read
    · cases read
    · cases read
      split
      · exact .alone here
      · exact .upTo here note

theorem goesOn_turn (d : SequenceDiagram) :
    GoesOn Kind.sequence.endings lines place (turn d line (lines.drop (place + 1))).left.1 := by
  fun_cases turn d line (lines.drop (place + 1))
  case case3 read => exact goesOn_note here (.head _) read
  all_goals exact .alone here

end SequenceDiagram

namespace StateDiagram

theorem goesOn_turn (draft : Draft) :
    GoesOn Kind.states.endings lines place (turn draft line (lines.drop (place + 1))).left.1 := by
  fun_cases turn draft line (lines.drop (place + 1))
  case case3 read => exact goesOn_gridNote here (.head _) read
  all_goals exact .alone here

end StateDiagram

namespace DeploymentDiagram

theorem goesOn_turn (draft : Draft) :
    GoesOn Kind.deployment.endings lines place
      (turn draft line (lines.drop (place + 1))).left.1 := by
  fun_cases turn draft line (lines.drop (place + 1))
  case case2 read => exact goesOn_gridNote here (.head _) read
  all_goals exact .alone here

end DeploymentDiagram

namespace UseCaseDiagram

theorem goesOn_turn (draft : Draft) :
    GoesOn Kind.useCases.endings lines place (turn draft line (lines.drop (place + 1))).left.1 := by
  fun_cases turn draft line (lines.drop (place + 1))
  case case2 read => exact goesOn_gridNote here (.head _) read
  all_goals exact .alone here

end UseCaseDiagram

namespace EntityDiagram

theorem goesOn_cutBody (body : Line.endsBody ∈ endings) (s : List Char) :
    GoesOn endings lines place (cutBody s (lines.drop (place + 1))).2.2.1 := by
  unfold cutBody
  split
  · exact .alone here
  · split
    · exact .alone here
    · exact .upTo here body

theorem goesOn_declare (body : Line.endsBody ∈ endings) (d : EntityDiagram)
    (declaration : List Char) :
    GoesOn endings lines place (d.declare declaration (lines.drop (place + 1))).left.1 := by
  have left : (d.declare declaration (lines.drop (place + 1))).left =
      (cutBody (Text.trim declaration) (lines.drop (place + 1))).2.2 := by
    unfold EntityDiagram.declare
    dsimp only
    split <;> rfl
  exact left ▸ goesOn_cutBody here body _

theorem goesOn_turn (d : EntityDiagram) :
    GoesOn Kind.entities.endings lines place (turn d line (lines.drop (place + 1))).left.1 := by
  fun_cases turn d line (lines.drop (place + 1))
  case case1 => exact goesOn_declare here (.head _) d _
  all_goals exact .alone here

end EntityDiagram

namespace MindMap

theorem goesOn_topicText (ends : Line.endsText ∈ endings) (text : List Char) :
    GoesOn endings lines place (topicText text (lines.drop (place + 1))).2.1 := by
  unfold topicText
  split
  · exact .alone here
  · dsimp only
    split
    · exact .alone here
    · exact .through here ends

theorem goesOn_turn (draft : Draft) :
    GoesOn Kind.mindMap.endings lines place (turn draft line (lines.drop (place + 1))).left.1 := by
  unfold turn
  split
  · exact .alone here
  · dsimp only
    split
    · exact goesOn_topicText here (.head _) _
    · split <;> exact goesOn_topicText here (.head _) _

end MindMap

namespace ActivityDiagram

theorem goesOn_ifAllowed (draft : Draft) (next : Option Draft) (reason : String) :
    GoesOn endings lines place
      (ifAllowed draft next reason : Turn Draft (lines.drop (place + 1))).left.1 := by
  cases next <;> exact .alone here

theorem goesOn_readAction (ends : Line.endsText ∈ endings) (draft : Draft) (first : List Char) :
    GoesOn endings lines place
      (readAction draft first : Turn Draft (lines.drop (place + 1))).left.1 := by
  by_cases whole : Text.hasEnd [';'] first
  · rw [readAction, if_pos whole]
    exact .alone here
  · rw [readAction, if_neg whole]
    exact .through here ends

theorem goesOn_readNote (note : Line.endsNote ∈ endings) (draft : Draft)
    (words : Option (List Char)) :
    GoesOn endings lines place
      (readNote draft words : Turn Draft (lines.drop (place + 1))).left.1 := by
  cases words with
  | some words => exact .alone here
  | none => exact .upTo here note

theorem goesOn_patternLine (note : Line.endsNote ∈ endings) (draft : Draft) (s : List Char) :
    GoesOn endings lines place
      (patternLine draft s : Turn Draft (lines.drop (place + 1))).left.1 := by
  fun_cases (patternLine draft s : Turn Draft (lines.drop (place + 1)))
  case case1 | case4 | case6 | case7 | case9 => exact .alone here
  case case2 | case3 | case5 => exact goesOn_ifAllowed here _ _ _
  case case8 => exact goesOn_readNote here note draft _

theorem goesOn_fixedLine {draft : Draft} {text : String}
    {turn : Turn Draft (lines.drop (place + 1))} (fixed : fixedLine? draft text = some turn) :
    GoesOn endings lines place turn.left.1 := by
  revert fixed
  fun_cases (fixedLine? draft text : Option (Turn Draft (lines.drop (place + 1))))
  case case14 => exact nofun
  all_goals
    intro fixed
    cases fixed
  case case1 | case2 | case3 | case4 | case5 | case6 => exact .alone here
  all_goals exact goesOn_ifAllowed here _ _ _

theorem goesOn_turn (draft : Draft) :
    GoesOn Kind.activity.endings lines place
      (turn draft line (lines.drop (place + 1))).left.1 := by
  unfold turn
  split
  · exact goesOn_fixedLine here ‹_›
  · split
    · exact goesOn_readAction here (.tail _ (.head _)) draft _
    · exact goesOn_patternLine here (.head _) draft _

end ActivityDiagram

end Readers

/-! ## Readings as loops -/

/-- Where a reading is: its state, the place of the next line, and what was said so far. -/
structure Cursor (σ : Type) where
  state : σ
  place : Nat
  diagnostics : List Diagnostic := []

namespace Cursor

variable {σ : Type} (turn : σ → Line → (rest : List Line) → Turn σ rest) (lines : List Line)

/-- Takes the turn that is due, if there is a line left. -/
def advance (c : Cursor σ) : Cursor σ :=
  match lines[c.place]? with
  | none => c
  | some line =>
    match turn c.state line (lines.drop (c.place + 1)) with
    | .took state left => { c with state, place := lines.length - left.1.length }
    | .skipped state reason left =>
      { state
        place := lines.length - left.1.length
        diagnostics := c.diagnostics ++ [⟨line.number, line.text, reason⟩] }

/-- What is read in the end: the last state, and what was said up to the cursor and behind it. -/
def outcome (c : Cursor σ) : σ × List Diagnostic :=
  let (state, diagnostics) := readAll turn c.state (lines.drop c.place)
  (state, c.diagnostics ++ diagnostics)

variable {turn lines} {c : Cursor σ}

theorem advance_of_getElem? {line : Line} (here : lines[c.place]? = some line) :
    (c.advance turn lines).place =
      lines.length - (turn c.state line (lines.drop (c.place + 1))).left.1.length := by
  rw [advance, here]
  dsimp only
  cases turn c.state line (lines.drop (c.place + 1)) <;> rfl

theorem advance_place (turn : σ → Line → (rest : List Line) → Turn σ rest)
    (here : c.place < lines.length) :
    c.place < (c.advance turn lines).place ∧ (c.advance turn lines).place ≤ lines.length := by
  rw [advance_of_getElem? (List.getElem?_eq_getElem here)]
  have fewer := (turn c.state lines[c.place] (lines.drop (c.place + 1))).left.2.length_le
  rw [List.length_drop] at fewer
  omega

/-- A turn does not change what is read in the end. -/
theorem outcome_advance : (c.advance turn lines).outcome turn lines = c.outcome turn lines := by
  cases found : lines[c.place]? with
  | none => rw [advance, found]
  | some line =>
      obtain ⟨here, rfl⟩ := List.getElem?_eq_some_iff.mp found
      have left (r : Remaining (lines.drop (c.place + 1))) :
          lines.drop (lines.length - r.1.length) = r.1 :=
        (List.suffix_iff_eq_drop.mp (r.2.trans (List.drop_suffix _ _))).symm
      rw [advance, found, outcome, outcome, List.drop_eq_getElem_cons here]
      dsimp only
      cases step : turn c.state lines[c.place] (lines.drop (c.place + 1)) with
      | took state r =>
          rw [readAll_of_took step]
          dsimp only
          rw [left]
      | skipped state reason r =>
          rw [readAll_of_skipped step]
          dsimp only
          rw [left, List.append_assoc, List.singleton_append]

/-- The turns of a reading come to the end of the lines, and there are at most as many of them as
there are lines ahead. -/
theorem exists_iterate_advance (turn : σ → Line → (rest : List Line) → Turn σ rest)
    (c : Cursor σ) (within : c.place ≤ lines.length) :
    ∃ turns ≤ lines.length - c.place,
      (∀ before < turns, ((advance turn lines)^[before] c).place < lines.length) ∧
        (advance turn lines)^[turns] c =
          ⟨(c.outcome turn lines).1, lines.length, (c.outcome turn lines).2⟩ := by
  -- every turn makes the number of lines ahead smaller, by as many as it takes
  induction ahead : lines.length - c.place using Nat.strongRecOn generalizing c with
  | ind n ih =>
      rcases Nat.eq_or_lt_of_le within with ended | here
      · refine ⟨0, Nat.zero_le _, fun _ none => absurd none (Nat.not_lt_zero _), ?_⟩
        rw [outcome, ended, List.drop_length, readAll]
        dsimp only
        rw [List.append_nil, ← ended]
        rfl
      · obtain ⟨below, inside⟩ := advance_place turn here
        obtain ⟨turns, few, before, last⟩ := ih _ (by omega) (c.advance turn lines) inside rfl
        refine ⟨turns + 1, by omega, ?_, ?_⟩
        · intro earlier sooner
          cases earlier with
          | zero => exact here
          | succ earlier => exact before earlier (Nat.lt_of_succ_lt_succ sooner)
        · rw [Function.iterate_succ_apply, last, outcome_advance]

end Cursor

/-- A way of reading in turns: the state at the start, the turns, and what is made of the last
state. -/
structure Reading where
  State : Type
  start : State
  turn : State → Line → (rest : List Line) → Turn State rest
  finish : State → Except ReadError Content

namespace Reading

def standard : Kind → Reading
  | .classes => ⟨ClassDiagram, {}, ClassDiagram.turn, fun d => .ok (.classes d.settleNotes)⟩
  | .sequence => ⟨SequenceDiagram, {}, SequenceDiagram.turn, fun d => .ok (.sequence d)⟩
  | .states =>
    ⟨StateDiagram.Draft, {}, StateDiagram.turn, fun draft => .ok (.states (.settleNotes draft))⟩
  | .mindMap => ⟨MindMap.Draft, {}, MindMap.turn, fun draft => .ok (.mindMap draft.map)⟩
  | .entities => ⟨EntityDiagram, {}, EntityDiagram.turn, fun d => .ok (.entities d)⟩
  | .deployment =>
    ⟨DeploymentDiagram.Draft, {}, DeploymentDiagram.turn,
      fun draft => .ok (.deployment (.settleNotes draft))⟩
  | .useCases =>
    ⟨UseCaseDiagram.Draft, {}, UseCaseDiagram.turn,
      fun draft => .ok (.useCases (.settleNotes draft))⟩
  | .activity =>
    ⟨ActivityDiagram.Draft, {}, ActivityDiagram.turn, fun draft =>
      match Flow.edges draft.finish.nodes with
      | .ok edges => .ok (.activity { draft.finish with edges })
      | .error fault => .error (.noFlow fault)⟩

variable (reading : Reading) (lines : List Line)

/-- Where the reading is after some turns. -/
def after (turns : Nat) : Cursor reading.State :=
  (Cursor.advance reading.turn lines)^[turns] ⟨reading.start, 0, []⟩

/-- What a cursor at the end of the lines has read. -/
def result (c : Cursor reading.State) : Except ReadError (Content × List Diagnostic) :=
  (reading.finish c.state).map fun content => (content, c.diagnostics)

/-- A reading takes some turns, each of which starts at a line and goes on to a later place. Then it
is behind the last line, and has read what it reads. -/
structure EndsAfter (turns : Nat) (outcome : Except ReadError (Content × List Diagnostic)) :
    Prop where
  going : ∀ before < turns, (reading.after lines before).place < lines.length
  onward : ∀ before < turns,
    (reading.after lines before).place < (reading.after lines (before + 1)).place
  ended : (reading.after lines turns).place = lines.length
  outcome_eq : outcome = reading.result (reading.after lines turns)

theorem reader_standard (kind : Kind) (lines : List Line) :
    Reader.standard kind lines =
      ((standard kind).finish (readAll (standard kind).turn (standard kind).start lines).1).map
        fun content => (content, (readAll (standard kind).turn (standard kind).start lines).2) := by
  cases kind with
  | activity =>
      dsimp only [Reader.standard, standard, ActivityDiagram.ofLines, ActivityDiagram.draftOfLines]
      cases Flow.edges (readAll ActivityDiagram.turn {} lines).1.finish.nodes <;> rfl
  | classes | sequence | states | mindMap | entities | deployment | useCases => rfl

theorem exists_endsAfter (kind : Kind) (lines : List Line) :
    ∃ turns ≤ lines.length, (standard kind).EndsAfter lines turns (Reader.standard kind lines) := by
  let start : Cursor (standard kind).State := ⟨(standard kind).start, 0, []⟩
  obtain ⟨turns, few, going, last⟩ :=
    start.exists_iterate_advance (standard kind).turn (Nat.zero_le lines.length)
  have onward : ∀ before < turns, ((standard kind).after lines before).place <
      ((standard kind).after lines (before + 1)).place := by
    intro before sooner
    rw [after, after, Function.iterate_succ_apply']
    exact (Cursor.advance_place _ (going before sooner)).1
  have result : Reader.standard kind lines =
      (standard kind).result ((standard kind).after lines turns) := by
    rw [reader_standard, result, after, last]
    rfl
  exact ⟨turns, few, going, onward, congrArg Cursor.place last, result⟩

theorem goesOn_turn (kind : Kind) (state : (standard kind).State) {lines : List Line} {place : Nat}
    (here : place < lines.length) (line : Line) :
    GoesOn kind.endings lines place
      ((standard kind).turn state line (lines.drop (place + 1))).left.1 := by
  cases kind with
  | classes => exact ClassDiagram.goesOn_turn here state
  | sequence => exact SequenceDiagram.goesOn_turn here state
  | states => exact StateDiagram.goesOn_turn here state
  | mindMap => exact MindMap.goesOn_turn here state
  | entities => exact EntityDiagram.goesOn_turn here state
  | deployment => exact DeploymentDiagram.goesOn_turn here state
  | useCases => exact UseCaseDiagram.goesOn_turn here state
  | activity => exact ActivityDiagram.goesOn_turn here state

/-- All readers that take several lines go on from a place, in whatever state they start there. -/
structure AllGoOn (lines : List Line) (place : Nat) (line : Line) : Prop where
  block (ends : Line → Bool) :
    GoesOn [ends] lines place (upTo ends (lines.drop (place + 1))).2.1
  gridNote (index : Nat) (result : Note × Remaining (lines.drop (place + 1))) :
    gridNote? index line (lines.drop (place + 1)) = some result →
      GoesOn [Line.endsNote] lines place result.2.1
  sequenceNote (d : SequenceDiagram)
      (result : SequenceDiagram × Remaining (lines.drop (place + 1))) :
    d.note? line (lines.drop (place + 1)) = some result →
      GoesOn [Line.endsAnyNote] lines place result.2.1
  classDeclaration (d : ClassDiagram) (kind : ClassKind) (declaration : List Char) :
    GoesOn [Line.endsBody] lines place
      (d.declare kind declaration (lines.drop (place + 1))).left.1
  entityDeclaration (d : EntityDiagram) (declaration : List Char) :
    GoesOn [Line.endsBody] lines place (d.declare declaration (lines.drop (place + 1))).left.1
  action (draft : ActivityDiagram.Draft) (first : List Char) :
    GoesOn [Line.endsText] lines place
      (ActivityDiagram.readAction draft first :
        Turn ActivityDiagram.Draft (lines.drop (place + 1))).left.1
  turn (kind : Kind) (state : (standard kind).State) :
    GoesOn kind.endings lines place
      ((standard kind).turn state line (lines.drop (place + 1))).left.1

theorem allGoOn {lines : List Line} {place : Nat} (here : place < lines.length) (line : Line) :
    AllGoOn lines place line where
  block _ := .upTo here List.mem_cons_self
  gridNote _ _ read := goesOn_gridNote here List.mem_cons_self read
  sequenceNote _ _ read := SequenceDiagram.goesOn_note here List.mem_cons_self read
  classDeclaration := ClassDiagram.goesOn_declare here List.mem_cons_self
  entityDeclaration := EntityDiagram.goesOn_declare here List.mem_cons_self
  action := ActivityDiagram.goesOn_readAction here List.mem_cons_self
  turn kind state := goesOn_turn kind state here line

/-- From every line the readers go on to a later place, and every reading ends after at most as many
turns as there are lines. -/
theorem ends_standard (lines : List Line) :
    (∀ place line, lines[place]? = some line → AllGoOn lines place line) ∧
      ∀ kind, ∃ turns ≤ lines.length,
        (standard kind).EndsAfter lines turns (Reader.standard kind lines) := by
  constructor
  · intro place line here
    exact allGoOn (List.getElem?_eq_some_iff.mp here).1 line
  · exact fun kind => exists_endsAfter kind lines

/-- A class whose body is never closed takes all lines in one turn. -/
theorem ends_standard_open_body :
    let lines : List Line := [⟨1, "class A \x7b"⟩, ⟨2, "x : Int"⟩, ⟨3, "note left"⟩]
    lines[0]? = some ⟨1, "class A \x7b"⟩ ∧ AllGoOn lines 0 ⟨1, "class A \x7b"⟩ ∧
      ((standard .classes).after lines 1).place = 3 ∧
        ∃ turns ≤ 3, (standard .classes).EndsAfter lines turns (Reader.standard .classes lines) :=
  have ends := ends_standard [⟨1, "class A \x7b"⟩, ⟨2, "x : Int"⟩, ⟨3, "note left"⟩]
  ⟨rfl, ends.1 0 _ rfl, by decide +kernel, ends.2 .classes⟩

end Reading

end DiagramMarkup
