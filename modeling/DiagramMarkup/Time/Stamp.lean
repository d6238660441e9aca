import DiagramMarkup.Number.Decimal

/-! # Time stamps

A time is a number of milliseconds since the beginning of 1970, in a day without leap seconds, and is
written with its date in the calendar that is in use today, extended to all years.
-/

namespace DiagramMarkup.Time

/-- A day of the calendar. -/
structure Date where
  year : Int
  month : Nat
  day : Nat
deriving Repr, DecidableEq

/-- The day of a number, counted from the beginning of 1970. Years are counted from the first of March
on, so that a leap day comes last, and in rounds of 400 years, which all have the same days. -/
def Date.ofDays (days : Int) : Date :=
  let shifted := days + 719468
  let round := shifted / 146097
  let dayOfRound := (shifted % 146097).toNat
  let yearOfRound :=
    (dayOfRound - dayOfRound / 1460 + dayOfRound / 36524 - dayOfRound / 146096) / 365
  let dayOfYear := dayOfRound - (365 * yearOfRound + yearOfRound / 4 - yearOfRound / 100)
  let shiftedMonth := (5 * dayOfYear + 2) / 153
  let month := if shiftedMonth < 10 then shiftedMonth + 3 else shiftedMonth - 9
  { year := yearOfRound + round * 400 + (if month ≤ 2 then 1 else 0)
    month
    day := dayOfYear - (153 * shiftedMonth + 2) / 5 + 1 }

/-- The digits of a number, with zeros before them up to a width. -/
def padded (width n : Nat) : List Char :=
  let digits := Number.digitText n
  List.replicate (width - digits.length) '0' ++ digits

/-- A year has four digits at least; one that does not fit them has a sign. -/
def yearText (year : Int) : List Char :=
  if year < 0 then '-' :: padded 4 year.natAbs
  else if 9999 < year then '+' :: padded 4 year.natAbs
  else padded 4 year.natAbs

/-- A time, given in milliseconds since the beginning of 1970, in the extended format with a final
Z. -/
def stamp (milliseconds : Int) : String :=
  let date := Date.ofDays (milliseconds / 86400000)
  let time := (milliseconds % 86400000).toNat
  String.ofList <|
    yearText date.year ++ '-' :: padded 2 date.month ++ '-' :: padded 2 date.day ++
      'T' :: padded 2 (time / 3600000) ++ ':' :: padded 2 (time / 60000 % 60) ++
      ':' :: padded 2 (time / 1000 % 60) ++ '.' :: padded 3 (time % 1000) ++ ['Z']

end DiagramMarkup.Time
