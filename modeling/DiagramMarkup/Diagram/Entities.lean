import DiagramMarkup.Diagram.Relation
import DiagramMarkup.Diagram.Table

/-! # Entity relationship diagrams -/

namespace DiagramMarkup

/-- A column of an entity. -/
structure Column where
  name : String
  typeName : String := ""
  primaryKey : Bool := false
  foreignKey : Bool := false
  mandatory : Bool := false
deriving Repr, DecidableEq

/-- A column as it is drawn: the key that it belongs to, its name and, if known, its type. -/
def Column.line (column : Column) : String :=
  let key := if column.primaryKey then "PK " else if column.foreignKey then "FK " else ""
  let type := if column.typeName = "" then "" else ": " ++ column.typeName
  key ++ column.name ++ type

/-- An entity with its columns. -/
structure Entity where
  name : String
  label : String
  columns : List Column := []
deriving Repr, DecidableEq

/-- An entity about which nothing but its name is known. -/
def Entity.bare (name : String) : Entity :=
  { name, label := name }

/-- How many instances stand at one end of a relationship. -/
inductive Cardinality
  | zeroOrOne
  | exactlyOne
  | zeroOrMany
  | oneOrMany
deriving Repr, DecidableEq

namespace Cardinality

def all : List Cardinality :=
  [zeroOrOne, exactlyOne, zeroOrMany, oneOrMany]

def name : Cardinality → String
  | zeroOrOne => "zeroOrOne"
  | exactlyOne => "exactlyOne"
  | zeroOrMany => "zeroOrMany"
  | oneOrMany => "oneOrMany"

/-- How a cardinality is written at the left end of a line. -/
def leftMark : Cardinality → String
  | zeroOrOne => "|o"
  | exactlyOne => "||"
  | zeroOrMany => "\x7do"
  | oneOrMany => "\x7d|"

/-- How a cardinality is written at the right end of a line. -/
def rightMark : Cardinality → String
  | zeroOrOne => "o|"
  | exactlyOne => "||"
  | zeroOrMany => "o\x7b"
  | oneOrMany => "|\x7b"

/-- The range that a cardinality stands for. -/
def multiplicity : Cardinality → String
  | zeroOrOne => "0..1"
  | exactlyOne => "1"
  | zeroOrMany => "0..*"
  | oneOrMany => "1..*"

/-- The mark that draw.io draws for a cardinality. -/
def arrowName : Cardinality → String
  | zeroOrOne => "ERzeroToOne"
  | exactlyOne => "ERmandOne"
  | zeroOrMany => "ERzeroToMany"
  | oneOrMany => "ERoneToMany"

def ofLeftMark? (mark : String) : Option Cardinality :=
  all.find? fun cardinality => cardinality.leftMark = mark

def ofRightMark? (mark : String) : Option Cardinality :=
  all.find? fun cardinality => cardinality.rightMark = mark

end Cardinality

/-- A relationship between two entities; a solid line identifies. -/
structure Relationship where
  source : String
  target : String
  sourceCardinality : Cardinality
  targetCardinality : Cardinality
  identifying : Bool
  label : Option String := none
deriving Repr, DecidableEq

/-- A relationship seen as a relation, with its cardinalities as multiplicities. -/
def Relationship.toRelation (r : Relationship) : Relation where
  source := r.source
  target := r.target
  kind := .relationship
  label := nonempty? r.label
  sourceLabel := some r.sourceCardinality.multiplicity
  targetLabel := some r.targetCardinality.multiplicity

/-- Entities and the relationships between them. -/
structure EntityDiagram where
  entities : Table Entity := .empty
  relationships : List Relationship := []
deriving Repr, DecidableEq

end DiagramMarkup
