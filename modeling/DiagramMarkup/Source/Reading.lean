/-! # Source lines and their reading

A line that reaches the readers is trimmed and not empty, and remembers its number in the text that
it came from.

A diagram is read in turns. A turn looks at the current line and, where a construct goes on over
several lines, takes some of the lines after it. It tells which lines are left, and these always end
the lines it was given, so every reading comes to its end.
-/

namespace DiagramMarkup

/-- One line of markup with its number, counted from one, in the text it was taken from. -/
structure Line where
  number : Nat
  text : String
deriving Repr, DecidableEq

def Line.chars (line : Line) : List Char :=
  line.text.toList

/-- The lines of a markup text that carry diagram content, and what was learned from the others. -/
structure Source where
  lines : List Line
  title : Option String
  /-- Whether the text opens a mind map explicitly. -/
  mindMapMarker : Bool
deriving Repr, DecidableEq

/-- Whether no line carries diagram content. -/
def Source.isEmpty (source : Source) : Bool :=
  source.lines.isEmpty

/-- A line that could not be placed, and why. -/
structure Diagnostic where
  line : Nat
  text : String
  reason : String
deriving Repr, DecidableEq

/-- Lines that are left of others: all of them from some place on. -/
abbrev Remaining (lines : List Line) : Type :=
  { left : List Line // left <:+ lines }

namespace Remaining

/-- No line was taken. -/
def all (lines : List Line) : Remaining lines :=
  ⟨lines, List.suffix_refl lines⟩

/-- What is left of the lines after the first one is left of all lines. -/
def behind (line : Line) {lines : List Line} (r : Remaining lines) : Remaining (line :: lines) :=
  ⟨r.1, r.2.trans (List.suffix_cons line lines)⟩

end Remaining

/-- The lines before the first one that satisfies a test, and the lines after it. Where no line does,
all lines stand before it. -/
def upTo (ends : Line → Bool) : (lines : List Line) → List Line × Remaining lines
  | [] => ([], .all [])
  | line :: lines =>
    if ends line then ([], .behind line (.all lines))
    else
      let (body, left) := upTo ends lines
      (line :: body, .behind line left)

/-- The lines up to and with the first one that satisfies a test, and the lines after it. -/
def through (ends : Line → Bool) : (lines : List Line) → List Line × Remaining lines
  | [] => ([], .all [])
  | line :: lines =>
    if ends line then ([line], .behind line (.all lines))
    else
      let (body, left) := through ends lines
      (line :: body, .behind line left)

/-- What a turn did with the current line and the lines after it. -/
inductive Turn (σ : Type) (rest : List Line) where
  /-- The line was placed. -/
  | took (state : σ) (left : Remaining rest)
  /-- The line could not be placed. -/
  | skipped (state : σ) (reason : String) (left : Remaining rest)

namespace Turn

variable {σ : Type} {rest : List Line}

/-- The line was placed and is the only one. -/
def took1 (state : σ) : Turn σ rest :=
  .took state (.all rest)

/-- The line could not be placed, and nothing else happened. -/
def skip (state : σ) (reason : String) : Turn σ rest :=
  .skipped state reason (.all rest)

def state : Turn σ rest → σ
  | .took s _ => s
  | .skipped s _ _ => s

def left : Turn σ rest → Remaining rest
  | .took _ r => r
  | .skipped _ _ r => r

end Turn

/-- Takes turns until no line is left; the result holds the last state and a diagnostic for every
line that was skipped, in order. -/
def readAll {σ : Type} (turn : σ → Line → (rest : List Line) → Turn σ rest) (state : σ) :
    List Line → σ × List Diagnostic
  | [] => (state, [])
  | line :: rest =>
    match turn state line rest with
    | .took next left =>
      have := left.2.length_le
      readAll turn next left.1
    | .skipped next reason left =>
      have := left.2.length_le
      let (last, diagnostics) := readAll turn next left.1
      (last, ⟨line.number, line.text, reason⟩ :: diagnostics)
termination_by lines => lines.length
decreasing_by all_goals simp only [List.length_cons]; omega

/-- The texts of lines, one under the other. -/
def joinTexts (lines : List Line) : String :=
  "\n".intercalate (lines.map Line.text)

end DiagramMarkup
