import DiagramMarkup.Diagram.Table
import DiagramMarkup.Json.Value

/-! # Reading records

A record is written as an object, in which unknown fields do not matter, or as an array of its fields
in order, from the end of which fields with a default may be missing.
-/

namespace DiagramMarkup.Json

/-- Whether a value can be a record of some number of fields. -/
def isRecord (size : Nat) : Json → Bool
  | object _ => true
  | array items => items.length ≤ size
  | _ => false

/-- A field of a record, by its key or by its place. -/
def field? (place : Nat) (key : String) : Json → Option Json
  | object fields => fields.lookup key
  | array items => items[place]?
  | _ => none

/-- A field that must be there. -/
def required {α : Type} (place : Nat) (key : String) (read : Json → Option α) (j : Json) :
    Option α :=
  (j.field? place key).bind read

/-- A field that has a default. -/
def withDefault {α : Type} (place : Nat) (key : String) (read : Json → Option α) (default : α)
    (j : Json) : Option α :=
  match j.field? place key with
  | some value => read value
  | none => some default

/-- A field that may be missing or null. -/
def optionalAt {α : Type} (place : Nat) (key : String) (read : Json → Option α) (j : Json) :
    Option (Option α) :=
  match j.field? place key with
  | none => some none
  | some null => some none
  | some value => (read value).map some

/-- The value of a named alternative: its name, or an object whose only field has that key and the
value null. -/
def alternative? {α : Type} (all : List α) (name : α → String) (j : Json) : Option α :=
  let find (word : String) : Option α := all.find? fun a => name a = word
  match j with
  | string word => find word
  | object [(word, null)] => find word
  | _ => none

/-- The tag of a tagged record and the record without it. -/
def tagged? (key : String) : Json → Option (Json × Json)
  | object fields =>
    (fields.lookup key).map fun tag => (tag, object (fields.filter fun field => field.1 ≠ key))
  | array (tag :: items) => some (tag, array items)
  | _ => none

/-- Reads a table from the fields of an object; of two fields with one key the last one counts. -/
def table? {α : Type} (read : Json → Option α) : Json → Option (Table α)
  | object fields =>
    (fields.mapM fun field => (read field.2).map fun value => (field.1, value)).map Table.ofList
  | _ => none

/-- A table as an object, with its keys in order. -/
def ofTable {α : Type} (write : α → Json) (t : Table α) : Json :=
  object (t.entries.map fun entry => (entry.1, write entry.2))

end DiagramMarkup.Json
