import DiagramMarkup.Codec.Code

/-! # Deflating and inflating

A deflated stream is a row of blocks, of which the last one is marked. A block holds bytes as they
are, or symbols for bytes and for repetitions of earlier output. Here bytes are stored in blocks as
they are, which any reader of the format accepts, and blocks of every sort are read. What follows the
last block does not matter.
-/

namespace DiagramMarkup.Codec

namespace Deflate

/-- The most bytes that a block can hold. -/
def blockSize : Nat :=
  65535

/-- A number of two bytes, the lower one first. -/
def pair (n : Nat) : List UInt8 :=
  [.ofNat (n % 256), .ofNat (n / 256)]

/-- A block of bytes behind their number and its complement. The lowest bit of the first byte marks
the last block. -/
def block (last : Bool) (bytes : List UInt8) : List UInt8 :=
  (if last then 1 else 0) :: pair bytes.length ++ pair (blockSize - bytes.length) ++ bytes

/-- The blocks of some bytes, up to the last one. -/
def blocks (bytes : List UInt8) : List UInt8 :=
  if _h : blockSize < bytes.length then
    block false (bytes.take blockSize) ++ blocks (bytes.drop blockSize)
  else block true bytes
termination_by bytes.length
decreasing_by
  rw [List.length_drop]
  have : 0 < blockSize := by decide
  omega

end Deflate

def deflate (bytes : List UInt8) : List UInt8 :=
  Deflate.blocks bytes

namespace Inflate

/-- The codes of a block: for bytes and the lengths of repetitions, and for distances. -/
structure Codes where
  symbols : Code
  distances : Code
deriving Repr

def fixedLengths : List Nat :=
  List.replicate 144 8 ++ List.replicate 112 9 ++ List.replicate 24 7 ++ List.replicate 8 8

/-- The codes of blocks that do not bring their own. -/
def fixedCodes : Codes where
  symbols := .ofLengths fixedLengths
  distances := .ofLengths (List.replicate 32 5)

/-- The least length of a repetition and the number of further bits, by the symbol from 257 on. -/
def lengthTable : List (Nat × Nat) :=
  [(3, 0), (4, 0), (5, 0), (6, 0), (7, 0), (8, 0), (9, 0), (10, 0), (11, 1), (13, 1), (15, 1),
    (17, 1), (19, 2), (23, 2), (27, 2), (31, 2), (35, 3), (43, 3), (51, 3), (59, 3), (67, 4),
    (83, 4), (99, 4), (115, 4), (131, 5), (163, 5), (195, 5), (227, 5), (258, 0)]

/-- The least distance of a repetition and the number of further bits, by the symbol. -/
def distanceTable : List (Nat × Nat) :=
  [(1, 0), (2, 0), (3, 0), (4, 0), (5, 1), (7, 1), (9, 2), (13, 2), (17, 3), (25, 3), (33, 4),
    (49, 4), (65, 5), (97, 5), (129, 6), (193, 6), (257, 7), (385, 7), (513, 8), (769, 8),
    (1025, 9), (1537, 9), (2049, 10), (3073, 10), (4097, 11), (6145, 11), (8193, 12), (12289, 12),
    (16385, 13), (24577, 13)]

/-- Reads the bits behind a symbol of a table, and gives the length or the distance. -/
def amount? (table : List (Nat × Nat)) (symbol : Nat) (s : Bits) : Option (Nat × Bits) := do
  let (least, count) ← table[symbol]?
  let (more, s) ← s.number? count
  return (least + more, s)

/-- Repeats earlier output; before its beginning there are zeros. -/
def repeated (distance : Nat) : (length : Nat) → Array UInt8 → Array UInt8
  | 0, out => out
  | length + 1, out =>
    repeated distance length <|
      out.push (if distance ≤ out.size then out.getD (out.size - distance) 0 else 0)

/-- Reads the symbols of a block. The fuel bounds their number, as each of them takes a bit. -/
def symbols? (codes : Codes) : (fuel : Nat) → Array UInt8 → Bits → Option (Array UInt8 × Bits)
  | 0, _, _ => none
  | fuel + 1, out, s => do
    let (symbol, s) ← codes.symbols.read? s
    if symbol < 256 then symbols? codes fuel (out.push (.ofNat symbol)) s
    else if symbol = 256 then return (out, s)
    else
      let (length, s) ← amount? lengthTable (symbol - 257) s
      let (symbol, s) ← codes.distances.read? s
      let (distance, s) ← amount? distanceTable symbol s
      symbols? codes fuel (repeated distance length out) s

/-- A block that holds its bytes as they are, with their number and its complement before them. -/
def stored? (out : Array UInt8) (s : Bits) : Option (Array UInt8 × Bits) := do
  let s := s.toByte
  let (size, s) ← s.number? 16
  let (complement, s) ← s.number? 16
  if size + complement = 65535 then
    let (bytes, s) ← s.take? size
    return (out ++ bytes, s)
  else none

/-- The order in which the lengths of the code for lengths are given. -/
def lengthOrder : List Nat :=
  [16, 17, 18, 0, 8, 7, 9, 6, 10, 5, 11, 4, 12, 3, 13, 2, 14, 1, 15]

/-- Reads some numbers, all of the same width. -/
def numbers? (width : Nat) : (count : Nat) → Bits → Option (List Nat × Bits)
  | 0, s => some ([], s)
  | count + 1, s => do
    let (n, s) ← s.number? width
    let (rest, s) ← numbers? width count s
    return (n :: rest, s)

/-- Reads the lengths of words. A symbol below 16 is a length; the others repeat the last length or
zero. The fuel bounds the number of symbols. -/
def lengths? (code : Code) : (fuel : Nat) → (missing : Nat) → (before : Option Nat) → Bits →
    Option (List Nat × Bits)
  | _, 0, _, s => some ([], s)
  | 0, _ + 1, _, _ => none
  | fuel + 1, missing, before, s => do
    let (symbol, s) ← code.read? s
    let (length, count, s) ←
      match symbol with
      | 16 => do
        let length ← before
        let (more, s) ← s.number? 2
        pure (length, 3 + more, s)
      | 17 => do
        let (more, s) ← s.number? 3
        pure (0, 3 + more, s)
      | 18 => do
        let (more, s) ← s.number? 7
        pure (0, 11 + more, s)
      | length => pure (length, 1, s)
    if missing < count then none
    else
      let (rest, s) ← lengths? code fuel (missing - count) (some length) s
      return (List.replicate count length ++ rest, s)

/-- The code of some lengths. It may be incomplete only when it has no word, or one word of one bit. -/
def code? (lengths : List Nat) : Option Code :=
  if Code.isComplete lengths ∨ lengths.foldl (· + ·) 0 ≤ 1 then some (.ofLengths lengths) else none

/-- Reads the codes that a block brings: first the code that their lengths are written in, then the
lengths. -/
def codes? (s : Bits) : Option (Codes × Bits) := do
  let (symbolCount, s) ← s.number? 5
  let (distanceCount, s) ← s.number? 5
  let (lengthCount, s) ← s.number? 4
  let symbolCount := symbolCount + 257
  let distanceCount := distanceCount + 1
  if symbolCount > 286 ∨ distanceCount > 30 then none
  else
    let (given, s) ← numbers? 3 (lengthCount + 4) s
    let ordered := lengthOrder.zip given
    let lengths := (List.range 19).map fun symbol => (ordered.lookup symbol).getD 0
    if Code.isComplete lengths then
      let total := symbolCount + distanceCount
      let (all, s) ← lengths? (.ofLengths lengths) total total none s
      let symbols ← code? (all.take symbolCount)
      let distances ← code? (all.drop symbolCount)
      return (⟨symbols, distances⟩, s)
    else none

/-- The content of a block, behind the mark of the last one. -/
def block? (out : Array UInt8) (s : Bits) : Option (Array UInt8 × Bits) := do
  let (kind, s) ← s.number? 2
  match kind with
  | 0 => stored? out s
  | 1 => symbols? fixedCodes s.size out s
  | 2 => do
    let (codes, s) ← codes? s
    symbols? codes s.size out s
  | _ => none

/-- Reads blocks up to the last one. The fuel bounds their number. -/
def blocks? : (fuel : Nat) → Array UInt8 → Bits → Option (Array UInt8)
  | 0, _, _ => none
  | fuel + 1, out, s => do
    let (last, s) ← s.next?
    let (out, s) ← block? out s
    if last then return out else blocks? fuel out s

end Inflate

/-- The bytes of a stream, if it is one. -/
def inflate? (bytes : List UInt8) : Option (List UInt8) :=
  let s := Bits.ofBytes bytes
  (Inflate.blocks? s.size #[] s).map Array.toList

end DiagramMarkup.Codec
