import DiagramMarkup.Codec.Bits

/-! # Prefix codes

A code is given by the lengths of its words. Shorter words come first, and words of one length stand
in the order of their symbols.
-/

namespace DiagramMarkup.Codec

/-- A code as a tree: a word leads from the root to its symbol. -/
inductive Code where
  | unused
  | symbol (n : Nat)
  | branch (zero one : Code)
deriving Repr, DecidableEq

namespace Code

/-- The most bits that a symbol can have. -/
def maxLength : Nat :=
  15

/-- Joins neighbours under common branches. -/
def joined : List Code → List Code
  | [] => []
  | [a] => [branch a unused]
  | a :: b :: rest => branch a b :: joined rest

def symbolsOf (lengths : List Nat) (length : Nat) : List Code :=
  (lengths.zipIdx.filter fun entry => entry.1 = length).map fun entry => symbol entry.2

/-- The trees at a distance from the root, given the number of levels below. -/
def level (lengths : List Nat) : (below : Nat) → List Code
  | 0 => symbolsOf lengths maxLength
  | below + 1 => symbolsOf lengths (maxLength - (below + 1)) ++ joined (level lengths below)

/-- The part of all words of the greatest length that begin with a word of the code. -/
def share (lengths : List Nat) : Nat :=
  (lengths.filter (0 < ·)).foldl (fun total length => total + Nat.pow 2 (maxLength - length)) 0

/-- Whether every sequence of bits begins with a word. -/
def isComplete (lengths : List Nat) : Bool :=
  share lengths = Nat.pow 2 maxLength

/-- The tree of a code whose words have the given lengths; a length of zero stands for no word. -/
def ofLengths (lengths : List Nat) : Code :=
  match joined (level lengths (maxLength - 1)) with
  | [root] => root
  | _ => unused

/-- Reads a symbol bit by bit. -/
def read? : Code → Bits → Option (Nat × Bits)
  | unused, _ => none
  | symbol n, s => some (n, s)
  | branch zero one, s =>
    match s.next? with
    | some (true, s) => one.read? s
    | some (false, s) => zero.read? s
    | none => none

end Code

end DiagramMarkup.Codec
