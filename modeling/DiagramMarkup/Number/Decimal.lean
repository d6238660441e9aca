/-! # Shortest decimals

A binary floating point number stands for all reals that round to it. Its shortest decimal is the one
with the fewest digits among these, and of several the nearest to the number itself.
-/

namespace DiagramMarkup.Number

/-- A decimal number: the digits, read as a natural number, times a power of ten. -/
structure Decimal where
  digits : Nat
  exponent : Int
deriving Repr, DecidableEq

/-- A positive binary number `mantissa * 2 ^ exponent`. At a `border` the next smaller number is only
half as far away as the next larger one. -/
structure Binary where
  mantissa : Nat
  exponent : Int
  border : Bool
deriving Repr, DecidableEq

namespace Binary

/-- The number of the 63 low bits of a double, without its sign. -/
def ofBits (bits : Nat) : Binary :=
  let hidden := Nat.pow 2 52
  let fraction := bits % hidden
  let biased := bits / hidden % Nat.pow 2 11
  if biased = 0 then ⟨fraction, -1074, false⟩
  else ⟨hidden + fraction, (biased : Int) - 1075, fraction = 0 && biased > 1⟩

/-- Looks for a multiple of `10 ^ k` that rounds to the number. Everything is measured in quarters of
the last place of the number, with `a` and `b` clearing the denominators. -/
def onGrid? (n : Binary) (k : Int) : Option Nat :=
  let shift := n.exponent - 2
  let a := Nat.pow 2 shift.toNat * Nat.pow 10 (-k).toNat
  let b := Nat.pow 2 (-shift).toNat * Nat.pow 10 k.toNat
  let value := 4 * n.mantissa * a
  let low := (4 * n.mantissa - if n.border then 1 else 2) * a
  let high := (4 * n.mantissa + 2) * a
  let rounds (d : Nat) : Bool :=
    if n.mantissa % 2 = 0 then low ≤ d * b && d * b ≤ high else low < d * b && d * b < high
  let below := value / b
  let above := below + 1
  match rounds below, rounds above with
  | false, false => none
  | true, false => some below
  | false, true => some above
  | true, true => some (if value - below * b < above * b - value then below else above)

/-- The first hit on the grids of `10 ^ k` and finer ones; the fuel bounds their number. -/
def shortestFrom (n : Binary) : (fuel : Nat) → (k : Int) → Decimal
  | 0, _ => ⟨n.mantissa, 0⟩
  | fuel + 1, k =>
    match n.onGrid? k with
    | some digits => ⟨digits, k⟩
    | none => shortestFrom n fuel (k - 1)

/-- The shortest decimal of a positive number. The search starts above the number, whose decimal
logarithm is estimated from its binary one. -/
def shortest (n : Binary) : Decimal :=
  let log2 := (n.mantissa.log2 : Int) + n.exponent
  shortestFrom n 30 (log2 * 30103 / 100000 + 2)

end Binary

def digitText (n : Nat) : List Char :=
  Nat.toDigits 10 n

/-- A decimal in positional form, without an exponent and without digits that are not needed. -/
def Decimal.positional (d : Decimal) : List Char :=
  let digits := digitText d.digits
  if d.exponent ≥ 0 then digits ++ List.replicate d.exponent.toNat '0'
  else
    let places := (-d.exponent).toNat
    if digits.length > places then
      let whole := digits.length - places
      digits.take whole ++ '.' :: digits.drop whole
    else '0' :: '.' :: List.replicate (places - digits.length) '0' ++ digits

/-- The positional text of a finite number; zero has no sign. Infinities and the value that is no
number have no text. -/
def text? (x : Float) : Option String :=
  if x.isNaN || x.isInf then none
  else
    let bits := x.toBits.toNat
    let signBit := Nat.pow 2 63
    let size := bits % signBit
    if size = 0 then some "0"
    else
      let digits := (Binary.ofBits size).shortest.positional
      some (String.ofList (if bits ≥ signBit then '-' :: digits else digits))

/-! ## Numbers in drawings

Drawings hold the shortest decimals of their numbers, without the noise of floating point arithmetic:
what is nearly whole is drawn as whole.
-/

/-- Numbers that are this small are drawn as zero. -/
def tiny : Float :=
  1e-9

/-- A number that is this near to a whole one is drawn as whole. -/
def nearlyWhole : Float :=
  1e-6

/-- A number without noise. -/
def denoised (x : Float) : Float :=
  let x := if x.abs < tiny then 0 else x
  let nearest := x.round
  if (x - nearest).abs < nearlyWhole then nearest else x

/-- The text of a number in a drawing; what is not finite is drawn as zero. -/
def drawn (x : Float) : String :=
  (text? (denoised x)).getD "0"

end DiagramMarkup.Number
