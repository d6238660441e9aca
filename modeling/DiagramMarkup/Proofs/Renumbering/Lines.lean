import DiagramMarkup.Proofs.Reading

/-! # Lines under other numbers

The number of a line is there for a diagnostic about it. Where no turn looks at numbers, lines under
other numbers are read in the same way, and the diagnostics come under these numbers.
-/

namespace DiagramMarkup

variable {σ α β : Type} {f : Nat → Nat}

def Line.renumber (f : Nat → Nat) (line : Line) : Line :=
  { line with number := f line.number }

def Diagnostic.renumber (f : Nat → Nat) (d : Diagnostic) : Diagnostic :=
  { d with line := f d.line }

def Remaining.renumber (f : Nat → Nat) {lines : List Line} (r : Remaining lines) :
    Remaining (lines.map (Line.renumber f)) :=
  ⟨r.1.map (Line.renumber f), r.2.map (Line.renumber f)⟩

def Turn.renumber (f : Nat → Nat) {rest : List Line} :
    Turn σ rest → Turn σ (rest.map (Line.renumber f))
  | .took s left => .took s (left.renumber f)
  | .skipped s reason left => .skipped s reason (left.renumber f)

/-- The texts of lines decide a value. -/
def OfTexts (value : List Line → α) : Prop :=
  ∀ lines lines', lines.map Line.text = lines'.map Line.text → value lines = value lines'

namespace OfTexts

theorem joinTexts : OfTexts joinTexts :=
  fun _ _ same => congrArg ("\n".intercalate) same

theorem chars : OfTexts (List.map Line.chars) := by
  intro lines lines' same
  have chars (lines : List Line) :
      lines.map Line.chars = (lines.map Line.text).map String.toList := by
    rw [List.map_map]
    rfl
  rw [chars, chars, same]

theorem map {value : List Line → α} (decides : OfTexts value) (g : α → β) :
    OfTexts fun lines => g (value lines) :=
  fun _ _ same => congrArg g (decides _ _ same)

end OfTexts

/-! ## Reading on below a line -/

/-- A reading of the lines below that does not look at their numbers. -/
def Blind (read : (rest : List Line) → α × Remaining rest) : Prop :=
  ∀ f rest, read (rest.map (Line.renumber f)) = ((read rest).1, (read rest).2.renumber f)

theorem Blind.all (value : α) : Blind fun rest => (value, .all rest) :=
  fun _ _ => rfl

/-! ## Whole readings -/

/-- Where turns do not look at numbers, neither does a reading. -/
theorem readAll_renumber {turn : σ → Line → (rest : List Line) → Turn σ rest}
    (blind : ∀ s line rest,
      turn s (line.renumber f) (rest.map (Line.renumber f)) = (turn s line rest).renumber f)
    (s : σ) (lines : List Line) :
    readAll turn s (lines.map (Line.renumber f)) =
      ((readAll turn s lines).1, (readAll turn s lines).2.map (Diagnostic.renumber f)) := by
  fun_induction readAll turn s lines with
  | case1 s => simp only [List.map_nil, readAll]
  | case2 s line rest next left took shorter ih =>
      rw [List.map_cons, readAll, blind, took]
      exact ih
  | case3 s line rest next reason left skipped shorter last diagnostics later ih =>
      rw [List.map_cons, readAll, blind, skipped]
      rw [later] at ih
      exact congrArg (fun r => (r.1, _ :: r.2)) ih

end DiagramMarkup
