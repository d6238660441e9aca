import DiagramMarkup.Proofs.Skipping.Readers
import Mathlib.Data.List.Find

/-! # Readers and sources under other numbers

No reader looks at the numbers of the lines: it reads the same from lines under other numbers, and its
diagnostics come under these numbers. The kind of a source is told from its texts, and so only what is
said about lines has their numbers.
-/

namespace DiagramMarkup

variable (f : Nat → Nat)

/-- A reading by steady turns that see of their own line its text alone. -/
theorem readAll_renumber_of_steady {σ : Type}
    {turn : σ → Line → (rest : List Line) → Turn σ rest}
    (steady : ∀ s line, Steady s (turn s line))
    (own : ∀ s line rest, turn s (line.renumber f) rest = turn s line rest) (s : σ)
    (lines : List Line) :
    readAll turn s (lines.map (Line.renumber f)) =
      ((readAll turn s lines).1, (readAll turn s lines).2.map (Diagnostic.renumber f)) := by
  apply readAll_renumber
  intro s line rest
  rw [own, (steady s line).renumber f rest]

/-! ## Mind maps -/

namespace MindMap

theorem local_topicText (s : List Char) : Local fun rest => topicText s rest := by
  unfold topicText
  cases Text.after? [':'] s with
  | none => exact .all s
  | some first =>
      dsimp only
      split
      · exact .all _
      · let label (words : List Char) : List Char := (Text.before? [';'] words).getD words
        exact .through (.map .chars fun below => label (Text.join ['\n'] (first :: below)))
          fun _ _ => rfl

theorem turn_renumber (draft : Draft) (line : Line) (rest : List Line) :
    turn draft (line.renumber f) (rest.map (Line.renumber f)) =
      (turn draft line rest).renumber f := by
  have own : (line.renumber f).chars = line.chars := rfl
  unfold turn
  rw [own]
  cases entryPattern.read? line.chars with
  | none => rfl
  | some entry =>
      have topic := (local_topicText entry.text).blind f rest
      dsimp only at topic ⊢
      rw [topic]
      dsimp only
      repeat' split
      all_goals rfl

end MindMap

/-! ## All kinds -/

def ReadError.renumber : ReadError → ReadError
  | unrecognized kind count first => unrecognized kind count (first.renumber f)
  | noReader kind => noReader kind
  | noFlow fault => noFlow fault

/-- What a reader gives under other numbers. -/
def renumberContent (read : Except ReadError (Content × List Diagnostic)) :
    Except ReadError (Content × List Diagnostic) :=
  (read.map fun r => (r.1, r.2.map (Diagnostic.renumber f))).mapError (ReadError.renumber f)

theorem Reader.renumber_of_turns {σ : Type} {turn : σ → Line → (rest : List Line) → Turn σ rest}
    {s : σ} {reader : Reader} (finish : σ → Content)
    (reads : ∀ lines, reader lines = .ok (finish (readAll turn s lines).1, (readAll turn s lines).2))
    {lines : List Line}
    (same : readAll turn s (lines.map (Line.renumber f)) =
      ((readAll turn s lines).1, (readAll turn s lines).2.map (Diagnostic.renumber f))) :
    reader (lines.map (Line.renumber f)) = renumberContent f (reader lines) := by
  rw [reads, reads, same]
  rfl

theorem Reader.standard_renumber (kind : Kind) (lines : List Line) :
    Reader.standard kind (lines.map (Line.renumber f)) =
      renumberContent f (Reader.standard kind lines) := by
  have steadily {σ : Type} {turn : σ → Line → (rest : List Line) → Turn σ rest} {s : σ}
      (steady : ∀ s line, Steady s (turn s line))
      (own : ∀ s line rest, turn s (line.renumber f) rest = turn s line rest) :=
    readAll_renumber_of_steady f steady own s lines
  cases kind with
  | classes =>
      exact renumber_of_turns f (fun d => .classes d.settleNotes) (fun _ => rfl)
        (steadily ClassDiagram.steady_turn fun _ _ _ => rfl)
  | sequence =>
      exact renumber_of_turns f .sequence (fun _ => rfl)
        (steadily SequenceDiagram.steady_turn fun _ _ _ => rfl)
  | states =>
      exact renumber_of_turns f (fun draft => .states (StateDiagram.settleNotes draft)) (fun _ => rfl)
        (steadily StateDiagram.steady_turn fun _ _ _ => rfl)
  | mindMap =>
      exact renumber_of_turns f (fun draft => .mindMap draft.map) (fun _ => rfl)
        (readAll_renumber (MindMap.turn_renumber f) {} lines)
  | entities =>
      exact renumber_of_turns f .entities (fun _ => rfl)
        (steadily EntityDiagram.steady_turn fun _ _ _ => rfl)
  | deployment =>
      exact renumber_of_turns f (fun draft => .deployment (DeploymentDiagram.settleNotes draft))
        (fun _ => rfl) (steadily DeploymentDiagram.steady_turn fun _ _ _ => rfl)
  | useCases =>
      exact renumber_of_turns f (fun draft => .useCases (UseCaseDiagram.settleNotes draft))
        (fun _ => rfl) (steadily UseCaseDiagram.steady_turn fun _ _ _ => rfl)
  | activity =>
      have same := readAll_renumber_of_steady f ActivityDiagram.steady_turn (fun _ _ _ => rfl) {} lines
      obtain ⟨edges, found, _⟩ := Flow.exists_edges lines
      have moved : ActivityDiagram.draftOfLines (lines.map (Line.renumber f)) =
          ((ActivityDiagram.draftOfLines lines).1,
            (ActivityDiagram.draftOfLines lines).2.map (Diagnostic.renumber f)) := by
        simp only [ActivityDiagram.draftOfLines, same]
      rw [ActivityDiagram.standard_of_edges found]
      rw [← congrArg Prod.fst moved] at found
      rw [ActivityDiagram.standard_of_edges found, moved]
      rfl

/-! ## Sources -/

def Source.renumber (source : Source) : Source :=
  { source with lines := source.lines.map (Line.renumber f) }

/-! ## The kind -/

namespace Detection

@[simp] theorem someLine_renumber (test : List Char → Bool) (source : Source) :
    someLine test (source.renumber f) = someLine test source :=
  List.any_map

@[simp] theorem someWord_renumber (words : List String) (source : Source) :
    someWord words (source.renumber f) = someWord words source :=
  someLine_renumber f _ source

@[simp] theorem hasStructure_renumber (source : Source) :
    hasStructure (source.renumber f) = hasStructure source := by
  simp only [hasStructure, someLine_renumber, someWord_renumber]

theorem hasFlow_renumber (source : Source) : hasFlow (source.renumber f) = hasFlow source := by
  have fixed : ((source.renumber f).lines.any fun line => line.text ∈ ["start", "stop", "end"]) =
      source.lines.any fun line => line.text ∈ ["start", "stop", "end"] := List.any_map
  simp only [hasFlow, fixed, someLine_renumber]

theorem hasTopics_renumber (source : Source) : hasTopics (source.renumber f) = hasTopics source := by
  have topics : ((source.renumber f).lines.all fun line => topicPattern.reads line.chars) =
      source.lines.all fun line => topicPattern.reads line.chars := List.all_map
  have empty : (source.renumber f).isEmpty = source.isEmpty := List.isEmpty_map
  simp only [hasTopics, topics, empty]
  rfl

theorem holds_renumber {rule : Rule} (known : rule ∈ standard.rules) (source : Source) :
    rule.holds (source.renumber f) = rule.holds source := by
  simp only [standard, List.mem_cons, List.not_mem_nil, or_false] at known
  rcases known with rfl | rfl | rfl | rfl | rfl | rfl | rfl | rfl
  · simp only [hasMessages, someLine_renumber, hasStructure_renumber]
  · simp only [hasParticipants, someLine_renumber, someWord_renumber]
  · exact hasFlow_renumber f source
  · simp only [hasStates, someLine_renumber, someWord_renumber]
  · exact hasTopics_renumber f source
  · simp only [hasEntities, someLine_renumber, someWord_renumber]
  · simp only [hasUseCases, someLine_renumber, someWord_renumber]
  · simp only [hasDevices, someLine_renumber, someWord_renumber]

theorem detect_renumber (source : Source) :
    standard.detect (source.renumber f) = standard.detect source := by
  have same : standard.rules.find? (fun rule => rule.holds (source.renumber f)) =
      standard.rules.find? fun rule => rule.holds source :=
    List.find?_congr fun rule known => holds_renumber f known source
  rw [detect, same, detect]

end Detection

/-! ## The diagram -/

/-- What an engine gives under other numbers. -/
def renumberParsed (read : Except ReadError Parsed) : Except ReadError Parsed :=
  (read.map fun parsed =>
    { parsed with diagnostics := parsed.diagnostics.map (Diagnostic.renumber f) }).mapError
      (ReadError.renumber f)

namespace Engine

theorem readLenient_renumber (kind : Kind) (source : Source) :
    ({} : Engine).readLenient kind (source.renumber f) =
      renumberParsed f (({} : Engine).readLenient kind source) := by
  have empty : (source.renumber f).isEmpty = source.isEmpty := List.isEmpty_map
  have read := Reader.standard_renumber f kind source.lines
  unfold readLenient
  rw [empty]
  split
  · rfl
  · dsimp only
    rw [show (source.renumber f).lines = source.lines.map (Line.renumber f) from rfl, read]
    cases Reader.standard kind source.lines <;> rfl

theorem readSource_renumber (kind : Kind) (strict : Bool) (source : Source) :
    ({} : Engine).readSource kind strict (source.renumber f) =
      renumberParsed f (({} : Engine).readSource kind strict source) := by
  unfold readSource
  rw [readLenient_renumber]
  cases ({} : Engine).readLenient kind source with
  | error e => rfl
  | ok parsed =>
      obtain ⟨kind, diagram, diagnostics⟩ := parsed
      cases strict with
      | false => rfl
      | true =>
          cases diagnostics with
          | nil => rfl
          | cons first others =>
              simp only [renumberParsed, Except.map, Except.mapError, List.map_cons,
                List.length_cons, List.length_map, ReadError.renumber]

variable {f} {text changed : String}

theorem detect_eq_of_renumber (same : Source.ofText changed = (Source.ofText text).renumber f) :
    ({} : Engine).detect changed = ({} : Engine).detect text := by
  rw [detect, same]
  exact Detection.detect_renumber f _

/-- The same is read from texts of the same lines under other numbers. -/
theorem read_eq_of_renumber (same : Source.ofText changed = (Source.ofText text).renumber f)
    (strict : Bool) (kind : Option Kind) :
    ({} : Engine).read strict changed kind =
      renumberParsed f (({} : Engine).read strict text kind) := by
  have detected : (({} : Engine).detection.detect (Source.ofText changed)) =
      ({} : Engine).detection.detect (Source.ofText text) := detect_eq_of_renumber same
  unfold read
  dsimp only
  rw [detected, same]
  exact readSource_renumber f _ strict _

end Engine

end DiagramMarkup
