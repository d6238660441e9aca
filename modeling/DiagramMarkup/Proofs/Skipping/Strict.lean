import DiagramMarkup.Proofs.Cleaning.Runs
import DiagramMarkup.Proofs.Reading
import DiagramMarkup.Reading.Engine

/-! # Strict readings

A strict reading is a lenient one and a look at what that says: the lines of a text are numbered from
the first to the last, so the first diagnostic is about the first line that was skipped.
-/

namespace DiagramMarkup

open scoped List

/-! ## The numbers of the lines that are kept -/

namespace Cleaning

theorem increasing_run (state : Cleaning) (number : Nat) (raws : List (List Char)) :
    (state.run number raws).2.Pairwise (·.number < ·.number) := by
  induction raws generalizing state number with
  | nil => exact .nil
  | cons raw raws ih =>
      unfold run
      dsimp only
      split
      · exact .cons (fun line below => (number_of_mem_run below).1) (ih _ _)
      · exact ih _ _

end Cleaning

theorem Source.increasing_ofText (text : String) :
    (Source.ofText text).lines.Pairwise (·.number < ·.number) :=
  Cleaning.increasing_run ..

/-! ## The diagnostics of a reader -/

theorem ActivityDiagram.sources_ofLines {lines : List Line} {d : ActivityDiagram}
    {diagnostics : List Diagnostic} (read : ofLines lines = .ok (d, diagnostics)) :
    diagnostics.map Diagnostic.source <+ lines := by
  unfold ofLines at read
  cases found : Flow.edges (draftOfLines lines).1.nodes with
  | error fault =>
      simp only [found] at read
      cases read
  | ok edges =>
      simp only [found] at read
      cases read
      exact sources_readAll (σ := Draft) {} lines

theorem Reader.sources_standard {kind : Kind} {lines : List Line} {content : Content}
    {diagnostics : List Diagnostic} (read : Reader.standard kind lines = .ok (content, diagnostics)) :
    diagnostics.map Diagnostic.source <+ lines := by
  cases kind with
  | activity =>
      unfold Reader.standard at read
      dsimp only at read
      split at read <;> cases read
      exact ActivityDiagram.sources_ofLines ‹_›
  | classes | sequence | states | mindMap | entities | deployment | useCases =>
      cases read
      exact sources_readAll _ lines

namespace Engine

variable {engine : Engine} {kind : Kind} {source : Source} {parsed : Parsed}

/-- An engine all of whose readers are standard ones, under whatever kinds. -/
def BuiltIn (engine : Engine) : Prop :=
  ∀ kind reader, engine.reader? kind = some reader → ∃ other, reader = .standard other

theorem readSource_lenient :
    engine.readSource kind false source = engine.readLenient kind source := by
  unfold readSource
  split
  · exact (‹_› : engine.readLenient kind source = _).symm
  · exact (‹_› : engine.readLenient kind source = _).symm

theorem readSource_strict_of_nil (read : engine.readLenient kind source = .ok parsed)
    (clean : parsed.diagnostics = []) : engine.readSource kind true source = .ok parsed := by
  simp only [readSource, read, clean]

theorem readSource_strict_of_cons {first : Diagnostic} {others : List Diagnostic}
    (read : engine.readLenient kind source = .ok parsed)
    (skipped : parsed.diagnostics = first :: others) :
    engine.readSource kind true source =
      .error (.unrecognized kind parsed.diagnostics.length first) := by
  simp only [readSource, read, skipped]

/-- What a lenient reading gives was either read from no lines or by the reader of its kind. -/
theorem of_readLenient (read : engine.readLenient kind source = .ok parsed) :
    parsed.kind = kind ∧ (parsed.diagnostics = [] ∨ ∃ reader content,
      engine.reader? kind = some reader ∧
        reader source.lines = .ok (content, parsed.diagnostics)) := by
  unfold readLenient at read
  split at read
  · cases read
    exact ⟨rfl, .inl rfl⟩
  · cases known : engine.reader? kind with
    | none =>
        rw [known] at read
        cases read
    | some reader =>
        simp only [known] at read
        cases outcome : reader source.lines with
        | error e =>
            simp only [outcome] at read
            cases read
        | ok result =>
            simp only [outcome] at read
            cases read
            exact ⟨rfl, .inr ⟨reader, result.1, rfl, outcome⟩⟩

theorem sources_readLenient (builtIn : engine.BuiltIn)
    (read : engine.readLenient kind source = .ok parsed) :
    parsed.diagnostics.map Diagnostic.source <+ source.lines := by
  rcases (of_readLenient read).2 with none | ⟨reader, content, known, found⟩
  · rw [none]
    exact List.nil_sublist source.lines
  · obtain ⟨other, rfl⟩ := builtIn kind reader known
    exact Reader.sources_standard found

/-- What diagnostics are about: lines of a text, from the first to the last. -/
structure Reports (diagnostics : List Diagnostic) (lines : List Line) : Prop where
  increasing : diagnostics.Pairwise (·.line < ·.line)
  kept : ∀ d ∈ diagnostics, d.source ∈ lines

theorem Reports.of_sources {diagnostics : List Diagnostic} {lines : List Line}
    (increasing : lines.Pairwise (·.number < ·.number))
    (sources : diagnostics.map Diagnostic.source <+ lines) : Reports diagnostics lines where
  increasing := by
    have numbers : (diagnostics.map Diagnostic.source).Pairwise (·.number < ·.number) :=
      increasing.sublist sources
    rw [List.pairwise_map] at numbers
    exact numbers
  kept _ told := sources.subset (List.mem_map_of_mem told)

/-- What a strict reading gives where a lenient one gives a result: the same, unless that tells of
lines; then the first of them and their number are the error. -/
def StrictAfter (lenient strict : Except ReadError Parsed) : Prop :=
  match lenient with
  | .error e => strict = .error e
  | .ok parsed =>
    parsed.diagnostics = [] ∧ strict = .ok parsed ∨
      ∃ first ∈ parsed.diagnostics, (∀ d ∈ parsed.diagnostics, first.line ≤ d.line) ∧
        strict = .error (.unrecognized parsed.kind parsed.diagnostics.length first)

theorem strictAfter_readSource {lines : List Line}
    (read : engine.readLenient kind source = .ok parsed)
    (reports : Reports parsed.diagnostics lines) :
    StrictAfter (.ok parsed) (engine.readSource kind true source) := by
  cases skipped : parsed.diagnostics with
  | nil => exact .inl ⟨skipped, readSource_strict_of_nil read skipped⟩
  | cons first others =>
      have increasing := reports.increasing
      rw [skipped, List.pairwise_cons] at increasing
      refine .inr ⟨first, skipped ▸ List.mem_cons_self, ?_, ?_⟩
      · intro d told
        rcases List.mem_cons.mp (skipped ▸ told) with rfl | later
        · exact Nat.le_refl _
        · exact Nat.le_of_lt (increasing.1 d later)
      · rw [(of_readLenient read).1]
        exact readSource_strict_of_cons read skipped

/-- A strict reading of a text is a lenient one and one check, and what the lenient one tells of are
lines of the text in their order. -/
theorem read_strict (builtIn : engine.BuiltIn) (text : String) (kind : Option Kind) :
    StrictAfter (engine.read false text kind) (engine.read true text kind) ∧
      ∀ parsed, engine.read false text kind = .ok parsed →
        Reports parsed.diagnostics (Source.ofText text).lines := by
  unfold Engine.read
  dsimp only
  generalize kind.getD (engine.detection.detect (.ofText text)) = kind
  rw [readSource_lenient]
  have reports (parsed : Parsed) (read : engine.readLenient kind (.ofText text) = .ok parsed) :
      Reports parsed.diagnostics (Source.ofText text).lines :=
    .of_sources (Source.increasing_ofText text) (sources_readLenient builtIn read)
  refine ⟨?_, reports⟩
  cases read : engine.readLenient kind (.ofText text) with
  | error e => simp only [StrictAfter, readSource, read]
  | ok parsed => exact strictAfter_readSource read (reports parsed read)

theorem builtIn_setReader (builtIn : engine.BuiltIn) (kind other : Kind) :
    (engine.setReader kind (.standard other)).BuiltIn := by
  intro asked reader known
  unfold setReader at known
  dsimp only at known
  split at known
  · exact ⟨other, (Option.some.inj known).symm⟩
  · exact builtIn asked reader known

theorem builtIn_standard : ({} : Engine).BuiltIn :=
  fun kind _ known => ⟨kind, (Option.some.inj known).symm⟩

/-- A text for which an engine uses the reader of another kind. -/
theorem read_strict_setReader :
    let engine := ({} : Engine).setReader .classes (.standard .states)
    let text := "state Idle\n???\nIdle --> Busy\n"
    engine.BuiltIn ∧
      StrictAfter (engine.read false text (some .classes)) (engine.read true text (some .classes)) ∧
      ∀ parsed, engine.read false text (some .classes) = .ok parsed →
        Reports parsed.diagnostics (Source.ofText text).lines :=
  have builtIn := builtIn_setReader builtIn_standard .classes .states
  ⟨builtIn, read_strict builtIn _ _⟩

end Engine

end DiagramMarkup
