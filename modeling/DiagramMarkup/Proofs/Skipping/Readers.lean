import DiagramMarkup.Proofs.References.Closed
import DiagramMarkup.Proofs.Skipping.Confined

/-! # What the readers do with skipped lines

Apart from that of mind maps, every reader tells from its state and a line alone whether it takes the
line, and what it takes below ends where it says. A mind map may skip a topic together with the lines
of its text, which would be read on their own if the topic were left out.
-/

namespace DiagramMarkup

open Phrase Pattern

theorem offered_gridNote (index : Nat) (line : Line) : Offered (gridNote? index line) := by
  unfold gridNote?
  cases noteOpening.read? line.chars with
  | none => exact .never fun _ => rfl
  | some opening =>
      cases opening with
      | inline words name => exact .always (.all _) fun _ => rfl
      | aliased name =>
          exact .always (.upTo (.map .joinTexts fun words => Note.mk _ words _) fun _ _ => rfl)
            fun _ => rfl
      | attached target words =>
          cases words with
          | some words => exact .always (.all _) fun _ => rfl
          | none =>
              exact .always (.upTo (.map .joinTexts fun words => Note.mk _ words _) fun _ _ => rfl)
                fun _ => rfl

/-! ## Class diagrams -/

namespace ClassDiagram

theorem bodyMembers_eq (lines : List Line) :
    bodyMembers lines =
      ((lines.map Line.chars).filter fun s => !isSeparator s).filterMap member? := by
  simp only [bodyMembers, List.filter_map, List.filterMap_map, Function.comp_def]

theorem ofTexts_bodyMembers : OfTexts bodyMembers := by
  intro lines lines' same
  rw [bodyMembers_eq, bodyMembers_eq, OfTexts.chars _ _ same]

theorem local_readBody (body : Body) : Local fun rest => readBody rest body := by
  cases body with
  | absent => exact .all []
  | inline members => exact .all (inlineMembers members)
  | below => exact .upTo ofTexts_bodyMembers fun _ _ => rfl

theorem steady_declare (d : ClassDiagram) (kind : ClassKind) (declaration : List Char) :
    Steady d (d.declare kind declaration) := by
  unfold ClassDiagram.declare
  dsimp only
  split
  · exact .alone fun _ => rfl
  · refine .reading (local_readBody _) (fun _ => rfl) ?_
    intro rest rest' same
    simp only [Turn.state, same]

theorem steady_turn (d : ClassDiagram) (line : Line) : Steady d (turn d line) := by
  unfold turn
  cases offered_gridNote d.notes.length line with
  | always decided note =>
      simp only [note]
      exact .reading decided (fun _ => rfl) fun _ _ same => by simp only [Turn.state, same]
  | never none =>
      simp only [none]
      cases declarationPattern.read? line.chars with
      | some read => exact steady_declare d read.1 read.2
      | none =>
          dsimp only
          split
          · exact .alone fun _ => rfl
          · cases arrow? line.chars with
            | some arrow => exact .alone fun _ => rfl
            | none =>
                cases outsideMember.read? line.chars with
                | some member => exact .alone fun _ => rfl
                | none => exact .skips fun _ => rfl

end ClassDiagram

/-! ## State diagrams -/

namespace StateDiagram

theorem steady_turn (draft : Draft) (line : Line) : Steady draft (turn draft line) := by
  unfold turn
  dsimp only
  split
  · exact .alone fun _ => rfl
  · split
    · exact .alone fun _ => rfl
    · cases offered_gridNote draft.diagram.notes.length line with
      | always decided note =>
          simp only [note]
          exact .reading decided (fun _ => rfl) fun _ _ same => by simp only [Turn.state, same]
      | never none =>
          simp only [none]
          cases Text.after? "state ".toList line.chars with
          | some declaration => exact .alone fun _ => rfl
          | none =>
              cases arrow? line.chars with
              | some arrow => exact .alone fun _ => rfl
              | none =>
                  cases descriptionPattern.read? line.chars with
                  | some read => exact .alone fun _ => rfl
                  | none => exact .skips fun _ => rfl

end StateDiagram

/-! ## Use case diagrams -/

namespace UseCaseDiagram

theorem steady_turn (draft : Draft) (line : Line) : Steady draft (turn draft line) := by
  unfold turn
  dsimp only
  split
  · exact .alone fun _ => rfl
  · cases offered_gridNote draft.diagram.notes.length line with
    | always decided note =>
        simp only [note]
        exact .reading decided (fun _ => rfl) fun _ _ same => by simp only [Turn.state, same]
    | never none =>
        simp only [none]
        cases boundaryPattern.read? line.chars with
        | some declaration => exact .alone fun _ => rfl
        | none =>
            cases arrow? line.chars with
            | some arrow => exact .alone fun _ => rfl
            | none =>
                cases declaration? line.chars with
                | some read => exact .alone fun _ => rfl
                | none => exact .skips fun _ => rfl

end UseCaseDiagram

/-! ## Deployment diagrams -/

namespace DeploymentDiagram

theorem steady_turn (draft : Draft) (line : Line) : Steady draft (turn draft line) := by
  unfold turn
  dsimp only
  split
  · exact .alone fun _ => rfl
  · cases offered_gridNote draft.diagram.notes.length line with
    | always decided note =>
        simp only [note]
        exact .reading decided (fun _ => rfl) fun _ _ same => by simp only [Turn.state, same]
    | never none =>
        simp only [none]
        cases declarationPattern.read? line.chars with
        | some read => exact .alone fun _ => rfl
        | none =>
            cases arrow? line.chars with
            | some arrow => exact .alone fun _ => rfl
            | none =>
                cases bracketPattern.read? line.chars with
                | some read => exact .alone fun _ => rfl
                | none => exact .skips fun _ => rfl

end DeploymentDiagram

/-! ## Entity relationship diagrams -/

namespace EntityDiagram

theorem local_cutBody (s : List Char) :
    Local fun rest => (((cutBody s rest).1, (cutBody s rest).2.1), (cutBody s rest).2.2) := by
  unfold cutBody
  cases Text.cutAt (· = '{') s with
  | none => exact .all (s, [])
  | some parts =>
      obtain ⟨head, after⟩ := parts
      dsimp only
      cases Text.cutLast '}' after with
      | some parts => exact .all (Text.trim head, Text.splitAt ';' parts.1)
      | none => exact .upTo (.map .chars fun lines => (Text.trim head, lines)) fun _ _ => rfl

theorem steady_declare (d : EntityDiagram) (declaration : List Char) :
    Steady d (d.declare declaration) := by
  refine .reading (local_cutBody (Text.trim declaration)) ?_ ?_
  · intro rest
    unfold EntityDiagram.declare
    dsimp only
    split <;> rfl
  · intro rest rest' same
    obtain ⟨head, body⟩ := Prod.mk.inj same
    unfold EntityDiagram.declare
    dsimp only
    rw [head, body]
    split <;> rfl

theorem steady_turn (d : EntityDiagram) (line : Line) : Steady d (turn d line) := by
  unfold turn
  cases Text.after? "entity ".toList line.chars with
  | some declaration => exact steady_declare d declaration
  | none =>
      cases relationship? line.chars with
      | some relationship => exact .alone fun _ => rfl
      | none => exact .skips fun _ => rfl

end EntityDiagram

/-! ## Sequence diagrams -/

namespace SequenceDiagram

theorem offered_note (d : SequenceDiagram) (line : Line) : Offered (d.note? line) := by
  unfold note?
  cases notePattern.read? line.chars with
  | none => exact .never fun _ => rfl
  | some read =>
      obtain ⟨placement, names, words⟩ := read
      dsimp only
      split
      · exact .never fun _ => rfl
      · let add (text : String) : SequenceDiagram :=
          let participants := d.noteParticipants placement names
          (participants.foldl ensure d).addStep (.note { placement, participants, text })
        cases words with
        | some words => exact .always (.all (add _)) fun _ => rfl
        | none => exact .always (.upTo (.map .joinTexts add) fun _ _ => rfl) fun _ => rfl

theorem steady_turn (d : SequenceDiagram) (line : Line) : Steady d (turn d line) := by
  unfold turn
  dsimp only
  cases declarationPattern.read? line.chars with
  | some read => exact .alone fun _ => rfl
  | none =>
      cases divider? line.chars with
      | some label => exact .alone fun _ => rfl
      | none =>
          cases offered_note d line with
          | always decided note =>
              simp only [note]
              exact .takes decided fun _ => rfl
          | never none =>
              simp only [none]
              cases message? line.chars with
              | some message => exact .alone fun _ => rfl
              | none => exact .skips fun _ => rfl

end SequenceDiagram

/-! ## Activity diagrams -/

namespace ActivityDiagram

theorem steady_ifAllowed (draft : Draft) (next : Option Draft) (reason : String) :
    Steady draft fun _ => ifAllowed draft next reason := by
  cases next with
  | none => exact .skips fun _ => rfl
  | some next => exact .alone fun _ => rfl

theorem steady_readAction (draft : Draft) (first : List Char) :
    Steady draft fun _ => readAction draft first := by
  unfold readAction
  split
  · exact .alone fun _ => rfl
  · refine .reading (.through .chars fun _ _ => rfl) (fun _ => rfl) ?_
    intro rest rest' same
    dsimp only at same
    simp only [Turn.state, same]

theorem steady_readNote (draft : Draft) (words : Option (List Char)) :
    Steady draft fun _ => readNote draft words := by
  unfold readNote
  cases words with
  | none =>
      refine .reading (.upTo .joinTexts fun _ _ => rfl) (fun _ => rfl) ?_
      intro rest rest' same
      dsimp only at same
      simp only [Turn.state, same]
  | some words => exact .alone fun _ => rfl

theorem steady_patternLine (draft : Draft) (s : List Char) :
    Steady draft fun _ => patternLine draft s := by
  unfold patternLine
  repeat' split
  · exact .alone fun _ => rfl
  · exact steady_ifAllowed ..
  · exact steady_ifAllowed ..
  · exact .alone fun _ => rfl
  · exact steady_ifAllowed ..
  · exact .alone fun _ => rfl
  · exact .alone fun _ => rfl
  · exact steady_readNote ..
  · exact .skips fun _ => rfl

/-- A line that is understood as a whole, or is none of those lines. -/
theorem steady_fixedLine (draft : Draft) (text : String) :
    (∀ rest, (fixedLine? draft text : Option (Turn Draft rest)) = none) ∨
      ∃ turn, Steady draft turn ∧ ∀ rest, fixedLine? draft text = some (turn rest) := by
  fun_cases (fixedLine? draft text : Option (Turn Draft []))
  case case14 => exact .inl fun rest => by simp only [fixedLine?]
  all_goals refine .inr ⟨_, ?_, fun _ => rfl⟩
  case case1 | case2 | case3 | case4 | case5 | case6 => exact .alone fun _ => rfl
  all_goals exact steady_ifAllowed ..

theorem steady_turn (draft : Draft) (line : Line) : Steady draft (turn draft line) := by
  unfold turn
  rcases steady_fixedLine draft line.text with none | ⟨turn, steady, fixed⟩
  · simp only [none]
    cases Text.after? [':'] line.chars with
    | some first => exact steady_readAction draft first
    | none => exact steady_patternLine draft line.chars
  · simp only [fixed]
    exact steady

end ActivityDiagram

/-! ## All kinds but mind maps -/

/-- A reader that makes its content of the state after the last turn. -/
theorem Reader.leaveOut_of_turns {σ : Type} {turn : σ → Line → (rest : List Line) → Turn σ rest}
    (steady : ∀ s line, Steady s (turn s line)) {s : σ} {reader : Reader} (finish : σ → Content)
    (reads : ∀ lines, reader lines = .ok (finish (readAll turn s lines).1, (readAll turn s lines).2))
    {lines : List Line} (distinct : (lines.map Line.number).Nodup) :
    ∃ content diagnostics, reader lines = .ok (content, diagnostics) ∧
      reader (leaveOut (diagnosed diagnostics) lines) = .ok (content, []) := by
  refine ⟨_, _, reads lines, ?_⟩
  rw [reads, readAll_leaveOut steady s lines distinct]

/-- Whatever the kind of a diagram, mind maps apart, it is read in the same way, and without a
diagnostic, where the lines that were skipped are left out. -/
theorem Reader.standard_leaveOut {kind : Kind} (apart : kind ≠ .mindMap) {lines : List Line}
    (distinct : (lines.map Line.number).Nodup) :
    ∃ content diagnostics, Reader.standard kind lines = .ok (content, diagnostics) ∧
      Reader.standard kind (leaveOut (diagnosed diagnostics) lines) = .ok (content, []) := by
  cases kind with
  | mindMap => exact absurd rfl apart
  | classes =>
      exact leaveOut_of_turns ClassDiagram.steady_turn (fun d => .classes d.settleNotes)
        (fun _ => rfl) distinct
  | sequence =>
      exact leaveOut_of_turns SequenceDiagram.steady_turn .sequence (fun _ => rfl) distinct
  | states =>
      exact leaveOut_of_turns StateDiagram.steady_turn
        (fun draft => .states (StateDiagram.settleNotes draft)) (fun _ => rfl) distinct
  | entities => exact leaveOut_of_turns EntityDiagram.steady_turn .entities (fun _ => rfl) distinct
  | deployment =>
      exact leaveOut_of_turns DeploymentDiagram.steady_turn
        (fun draft => .deployment (DeploymentDiagram.settleNotes draft)) (fun _ => rfl) distinct
  | useCases =>
      exact leaveOut_of_turns UseCaseDiagram.steady_turn
        (fun draft => .useCases (UseCaseDiagram.settleNotes draft)) (fun _ => rfl) distinct
  | activity =>
      have same := readAll_leaveOut ActivityDiagram.steady_turn {} lines distinct
      obtain ⟨edges, found, _⟩ := Flow.exists_edges lines
      have less : ActivityDiagram.draftOfLines
          (leaveOut (diagnosed (ActivityDiagram.draftOfLines lines).2) lines) =
            ((ActivityDiagram.draftOfLines lines).1, []) := by
        simp only [ActivityDiagram.draftOfLines, same]
      refine ⟨_, _, ActivityDiagram.standard_of_edges found, ?_⟩
      rw [← congrArg Prod.fst less] at found
      rw [ActivityDiagram.standard_of_edges found, less]

/-- A conversation with a line that is skipped, and another with the same text inside a note. -/
theorem Reader.standard_leaveOut_conversation :
    ∃ content diagnostics,
      Reader.standard .sequence [⟨1, "a -> b : hi"⟩, ⟨2, "???"⟩, ⟨5, "note left"⟩, ⟨6, "???"⟩] =
        .ok (content, diagnostics) ∧
      Reader.standard .sequence (leaveOut (diagnosed diagnostics)
        [⟨1, "a -> b : hi"⟩, ⟨2, "???"⟩, ⟨5, "note left"⟩, ⟨6, "???"⟩]) = .ok (content, []) :=
  Reader.standard_leaveOut (by decide) (by decide)

end DiagramMarkup
