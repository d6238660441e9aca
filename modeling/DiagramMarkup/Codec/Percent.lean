/-! # Percent encoding

Letters, digits and some marks stand for themselves. Any other byte is written as a percent sign and
two hexadecimal digits.
-/

namespace DiagramMarkup.Codec.Percent

/-- The sign in front of the two digits of a byte. -/
def sign : UInt8 :=
  0x25

/-- Whether a byte stands for itself: a letter, a digit, or one of `-_.!~*'()`. -/
def isPlain (b : UInt8) : Bool :=
  (0x30 ≤ b && b ≤ 0x39) || (0x41 ≤ b && b ≤ 0x5A) || (0x61 ≤ b && b ≤ 0x7A) ||
    b = 0x2D || b = 0x5F || b = 0x2E || b = 0x21 || b = 0x7E || b = 0x2A || b = 0x27 ||
    b = 0x28 || b = 0x29

def hexDigit (n : UInt8) : UInt8 :=
  if n < 10 then 0x30 + n else 0x37 + n

def hexValue? (b : UInt8) : Option UInt8 :=
  if 0x30 ≤ b ∧ b ≤ 0x39 then some (b - 0x30)
  else if 0x41 ≤ b ∧ b ≤ 0x46 then some (b - 0x37)
  else if 0x61 ≤ b ∧ b ≤ 0x66 then some (b - 0x57)
  else none

/-- A byte as itself or as its two digits behind the sign. -/
def encodeByte (b : UInt8) : List UInt8 :=
  if isPlain b then [b] else [sign, hexDigit (b / 16), hexDigit (b % 16)]

/-- Bytes with all but the plain ones written as digits. -/
def encode (b : List UInt8) : List UInt8 :=
  b.flatMap encodeByte

def hexByte? (high low : UInt8) : Option UInt8 :=
  match hexValue? high, hexValue? low with
  | some high, some low => some (high * 16 + low)
  | _, _ => none

/-- Bytes with every sign that two digits follow replaced by the byte; any other sign stays. -/
def decode : List UInt8 → List UInt8
  | b :: high :: low :: rest =>
    match if b = sign then hexByte? high low else none with
    | some value => value :: decode rest
    | none => b :: decode (high :: low :: rest)
  | b :: rest => b :: decode rest
  | [] => []

end DiagramMarkup.Codec.Percent
