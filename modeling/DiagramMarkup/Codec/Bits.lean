/-! # Streams of bits

The bits of a byte are read from the lowest one on.
-/

namespace DiagramMarkup.Codec

/-- What is left of a stream: some bits of a byte that has been begun, and whole bytes. -/
structure Bits where
  begun : List Bool
  bytes : List UInt8
deriving Repr, DecidableEq

namespace Bits

def ofBytes (bytes : List UInt8) : Bits :=
  ⟨[], bytes⟩

/-- The bits of a byte, the lowest first. -/
def ofByte (b : UInt8) : List Bool :=
  (List.range 8).map b.toNat.testBit

def size (s : Bits) : Nat :=
  s.begun.length + 8 * s.bytes.length

/-- The next bit, if there is one, and the bits behind it. -/
def next? (s : Bits) : Option (Bool × Bits) :=
  match s.begun, s.bytes with
  | bit :: begun, bytes => some (bit, ⟨begun, bytes⟩)
  | [], byte :: bytes =>
    match ofByte byte with
    | bit :: begun => some (bit, ⟨begun, bytes⟩)
    | [] => none
  | [], [] => none

/-- The number of the next bits, the lowest one first. -/
def number? : Nat → Bits → Option (Nat × Bits)
  | 0, s => some (0, s)
  | count + 1, s => do
    let (bit, s) ← s.next?
    let (rest, s) ← number? count s
    return (bit.toNat + 2 * rest, s)

/-- Leaves out what is left of a byte that has been begun. -/
def toByte (s : Bits) : Bits :=
  ⟨[], s.bytes⟩

/-- The next bytes, of a stream of which no byte has been begun. -/
def take? (count : Nat) (s : Bits) : Option (List UInt8 × Bits) :=
  let taken := s.bytes.take count
  if taken.length = count then some (taken, ⟨[], s.bytes.drop count⟩) else none

end Bits

end DiagramMarkup.Codec
