/-! # JSON values

The fields of an object keep their order.
-/

namespace DiagramMarkup

/-- A JSON value. Whole numbers of at most 64 bits are kept exactly. -/
inductive Json where
  | null
  | bool (b : Bool)
  | integer (n : Int)
  | real (x : Float)
  | string (s : String)
  | array (items : List Json)
  | object (fields : List (String × Json))
deriving Repr, Inhabited

namespace Json

def string? : Json → Option String
  | string s => some s
  | _ => none

def bool? : Json → Option Bool
  | bool b => some b
  | _ => none

/-- The value of a whole number that is not negative. -/
def natural? : Json → Option Nat
  | integer n => if n < 0 then none else some n.toNat
  | _ => none

/-- The number that a value is, a whole one or not. -/
def float? : Json → Option Float
  | integer n => some (if n < 0 then -(Float.ofNat n.natAbs) else Float.ofNat n.toNat)
  | real x => some x
  | _ => none

def items? : Json → Option (List Json)
  | array items => some items
  | _ => none

def fields? : Json → Option (List (String × Json))
  | object fields => some fields
  | _ => none

/-- The items of an array, each of which must be readable. -/
def list? {α : Type} (read : Json → Option α) : Json → Option (List α)
  | array items => items.mapM read
  | _ => none

def get? (key : String) : Json → Option Json
  | object fields => fields.lookup key
  | _ => none

def ofNat (n : Nat) : Json :=
  integer (Int.ofNat n)

/-- A value that may be absent, as itself or as null. -/
def ofOption {α : Type} (write : α → Json) : Option α → Json
  | some a => write a
  | none => null

/-- A field that is left out where its value is absent. -/
def optionalField {α : Type} (key : String) (write : α → Json) : Option α → List (String × Json)
  | some a => [(key, write a)]
  | none => []

end Json

end DiagramMarkup
