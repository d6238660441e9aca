import DiagramMarkup.Text.Cut
import DiagramMarkup.Text.Tables

/-! # Line patterns

A pattern reads a beginning of a text. Where a text can be read in several ways the pattern lists all
of them, the preferred way first, and the first reading that fits everything after it wins. So a
choice prefers its left side, a greedy run its longest reading and a reluctant run its shortest.
-/

namespace DiagramMarkup

/-- All readings of beginnings of a text, each with what it read and the rest. -/
def Pattern (α : Type) : Type :=
  List Char → List (α × List Char)

namespace Pattern

variable {α β : Type}

instance : Monad Pattern where
  pure a := fun s => [(a, s)]
  bind p f := fun s => (p s).flatMap fun r => f r.1 r.2

instance : Alternative Pattern where
  failure := fun _ => []
  orElse p q := fun s => p s ++ q () s

/-- What the preferred reading of a beginning of the text gives. -/
def read? (p : Pattern α) (s : List Char) : Option α :=
  (p s).head?.map Prod.fst

def reads (p : Pattern α) (s : List Char) : Bool :=
  !(p s).isEmpty

/-- The first place where the pattern can be read: the text before it, what was read, and the text
after it. -/
def find? (p : Pattern α) : List Char → Option (List Char × α × List Char)
  | [] => (p []).head?.map fun r => ([], r.1, r.2)
  | c :: s =>
    match (p (c :: s)).head? with
    | some r => some ([], r.1, r.2)
    | none => (find? p s).map fun r => (c :: r.1, r.2)

/-- Cuts a text at all places where the pattern can be read, from left to right and without overlap:
the piece before the first place, and for every place what was read and the piece after it. -/
def splits (p : Pattern α) (s : List Char) : List Char × List (α × List Char) :=
  match p.find? s with
  | none => (s, [])
  | some (before, a, after) =>
    if _h : after.length < s.length then
      let r := splits p after
      (before, (a, r.1) :: r.2)
    else (s, [])
termination_by s.length

def occurs (p : Pattern α) (s : List Char) : Bool :=
  (p.find? s).isSome

/-- Reads nothing, at the end of the text only. -/
def ended : Pattern Unit
  | [] => [((), [])]
  | _ :: _ => []

def one (ok : Char → Bool) : Pattern Char
  | [] => []
  | c :: s => if ok c then [(c, s)] else []

/-- Reads one given character. -/
def char (c : Char) : Pattern Unit
  | [] => []
  | d :: s => if d = c then [((), s)] else []

/-- Reads a given text. -/
def text (t : String) : Pattern String := fun s =>
  match Text.after? t.toList s with
  | some rest => [(t, rest)]
  | none => []

/-- Reads the first of the given texts that fits, then the later ones. -/
def anyOf : List String → Pattern String
  | [] => failure
  | t :: ts => text t <|> anyOf ts

/-- Reads all characters up to the first one that fails a test, in this one way. -/
def run (ok : Char → Bool) : Pattern (List Char) := fun s =>
  [(s.takeWhile ok, s.dropWhile ok)]

/-- A run of at least one character. -/
def run1 (ok : Char → Bool) : Pattern (List Char)
  | [] => []
  | c :: s => if ok c then [(c :: s.takeWhile ok, s.dropWhile ok)] else []

/-- Reads characters that satisfy a test, as many as possible first. -/
def most (ok : Char → Bool) : Pattern (List Char)
  | [] => [([], [])]
  | c :: s => (if ok c then (most ok s).map fun r => (c :: r.1, r.2) else []) ++ [([], c :: s)]

/-- Reads at least one character that satisfies a test, as many as possible first. -/
def most1 (ok : Char → Bool) : Pattern (List Char) := do
  let c ← one ok
  let cs ← most ok
  return c :: cs

/-- Reads characters that satisfy a test, as few as possible first. -/
def fewest (ok : Char → Bool) : Pattern (List Char)
  | [] => [([], [])]
  | c :: s => ([], c :: s) :: (if ok c then (fewest ok s).map fun r => (c :: r.1, r.2) else [])

/-- Reads at least one character that satisfies a test, as few as possible first. -/
def fewest1 (ok : Char → Bool) : Pattern (List Char) := do
  let c ← one ok
  let cs ← fewest ok
  return c :: cs

/-- Reads the pattern again and again, as often as possible first; every repetition but the last has
to read something. -/
def repeated (p : Pattern α) (s : List Char) : List (List α × List Char) :=
  ((p s).flatMap fun r =>
    if _h : r.2.length < s.length then
      (repeated p r.2).map fun t => (r.1 :: t.1, t.2)
    else []) ++ [([], s)]
termination_by s.length

/-- Every character but the line feed. -/
def inLine (c : Char) : Bool :=
  c ≠ '\n'

/-- Reads the rest of the text, which must not contain a line feed. -/
def restOfLine : Pattern (List Char) := fun s =>
  if s.all inLine then [(s, [])] else []

/-- Reads all blanks up to the next character that is not blank. -/
def blanks : Pattern Unit := do
  let _ ← run Text.isBlank

/-- Reads at least one blank and all blanks that follow. -/
def blanks1 : Pattern Unit := do
  let _ ← run1 Text.isBlank

/-- Reads a text in double quotes and gives it without them. -/
def quoted : Pattern (List Char) := do
  char '"'
  let inner ← run (· ≠ '"')
  char '"'
  return inner

/-- Reads a text of at least one character between two marks, none of which is the closing one, and
gives it with them. -/
def enclosed (opening closing : Char) : Pattern (List Char) := do
  char opening
  let inner ← run1 (· ≠ closing)
  char closing
  return opening :: inner ++ [closing]

/-- Reads a text of at least one character in double quotes and gives it with them. -/
def quotedName : Pattern (List Char) :=
  enclosed '"' '"'

/-- Reads the given word where no word character follows it. -/
def keyword (t : String) : Pattern String := fun s =>
  match Text.after? t.toList s with
  | some [] => [(t, [])]
  | some (c :: rest) => if Text.isWord c then [] else [(t, c :: rest)]
  | none => []

end Pattern

end DiagramMarkup
