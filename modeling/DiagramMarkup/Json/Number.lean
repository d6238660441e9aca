import DiagramMarkup.Json.Value

/-! # Reading JSON numbers

A number without a fraction and an exponent is kept exactly if it fits 64 bits. Any other number is
read as the leading digits that fit 64 bits, and scaled once by a power of ten.
-/

namespace DiagramMarkup.Json

/-- The largest number of leading digits' value. -/
def significandLimit : Nat :=
  0xFFFFFFFFFFFFFFFF

/-- Splits digits off the beginning of a text. -/
def takeDigits (s : List Char) : List Char × List Char :=
  (s.takeWhile Char.isDigit, s.dropWhile Char.isDigit)

def digitValue (c : Char) : Nat :=
  c.toNat - '0'.toNat

/-- Takes digits into a significand as long as it fits; the result also holds the number of digits
that were left out. -/
def accumulate (significand : Nat) : List Char → Nat × Nat
  | [] => (significand, 0)
  | c :: rest =>
    let next := significand * 10 + digitValue c
    if next > significandLimit then (significand, rest.length + 1) else accumulate next rest

/-- Scales by a power of ten; a number that gets too large has no value. The fuel bounds the steps by
the largest negative power, after few of which nothing is left. -/
def scale : (fuel : Nat) → Float → Int → Option Float
  | 0, _, _ => some 0
  | fuel + 1, x, exponent =>
    if exponent.natAbs ≤ 308 then
      let power := Float.ofScientific 1 false exponent.natAbs
      if exponent ≥ 0 then
        let y := x * power
        if y.isInf then none else some y
      else some (x / power)
    else if x == 0 then some x
    else if exponent ≥ 0 then none
    else scale fuel (x / Float.ofScientific 1 false 308) (exponent + 308)

/-- A significand times a power of ten, with a sign. -/
def realOf (negative : Bool) (significand : Nat) (exponent : Int) : Option Json :=
  (scale 8 significand.toUInt64.toFloat exponent).map fun x => real (if negative then -x else x)

/-- The exponent of a number, behind the letter: its sign, its digits and the rest. -/
def exponentParts (s : List Char) : Bool × List Char × List Char :=
  let (negative, s) :=
    match s with
    | '-' :: s => (true, s)
    | '+' :: s => (false, s)
    | s => (false, s)
  (negative, takeDigits s)

/-- Reads an exponent, if there is one, and gives the number. -/
def withExponent (negative : Bool) (significand : Nat) (start : Int) (s : List Char) :
    Option (Json × List Char) :=
  let read (s : List Char) : Option (Json × List Char) :=
    let (down, digits, rest) := exponentParts s
    if digits.isEmpty then none
    else
      let size := digits.foldl (fun n c => n * 10 + digitValue c) 0
      if size > 0x7FFFFFFF then
        if significand ≠ 0 && !down then none
        else some (real (if negative then -0.0 else 0.0), rest)
      else
        (realOf negative significand (if down then start - size else start + size)).map (·, rest)
  match s with
  | 'e' :: s => read s
  | 'E' :: s => read s
  | s => (realOf negative significand start).map (·, s)

/-- Reads the digits behind a point, of which there is at least one. -/
def withFraction (negative : Bool) (significand : Nat) (dropped : Nat) (s : List Char) :
    Option (Json × List Char) :=
  let (digits, rest) := takeDigits s
  if digits.isEmpty then none
  else
    let (significand, left) := accumulate significand digits
    withExponent negative significand ((dropped : Int) - ((digits.length : Int) - left)) rest

/-- A whole number that fits 64 bits, and otherwise the nearest other number. -/
def wholeNumber (negative : Bool) (significand : Nat) : Json :=
  if !negative then integer significand
  else if 0 < significand ∧ significand ≤ 0x8000000000000000 then integer (-significand)
  else real (-(significand.toUInt64.toFloat))

/-- Reads a number without its sign. A leading zero stands alone. -/
def number? (negative : Bool) (s : List Char) : Option (Json × List Char) :=
  let (digits, rest) := takeDigits s
  if digits.isEmpty ∨ (digits.length > 1 ∧ digits.head? = some '0') then none
  else
    let (significand, dropped) := accumulate 0 digits
    match rest with
    | '.' :: rest => withFraction negative significand dropped rest
    | 'e' :: _ => withExponent negative significand dropped rest
    | 'E' :: _ => withExponent negative significand dropped rest
    | _ =>
      if dropped = 0 then some (wholeNumber negative significand, rest)
      else (realOf negative significand dropped).map (·, rest)

end DiagramMarkup.Json
