import DiagramMarkup.Diagram.Note
import DiagramMarkup.Diagram.Relation
import DiagramMarkup.Diagram.Table

/-! # Class diagrams -/

namespace DiagramMarkup

/-- What is declared as a class. -/
inductive ClassKind
  | plain
  | interface
  | abstract
  | enumeration
  | annotation
deriving Repr, DecidableEq

namespace ClassKind

def all : List ClassKind :=
  [plain, interface, abstract, enumeration, annotation]

def name : ClassKind → String
  | plain => "class"
  | interface => "interface"
  | abstract => "abstract"
  | enumeration => "enum"
  | annotation => "annotation"

def ofName? (word : String) : Option ClassKind :=
  all.find? fun kind => kind.name = word

/-- The line above the title of a class of a kind. -/
def stereotype? : ClassKind → Option String
  | plain => none
  | interface => some "«interface»"
  | abstract => some "«abstract»"
  | enumeration => some "«enumeration»"
  | annotation => some "«annotation»"

end ClassKind

/-- Who may use a member. -/
inductive Visibility
  | everyone
  | itself
  | descendants
  | neighbors
deriving Repr, DecidableEq

namespace Visibility

def all : List Visibility :=
  [everyone, itself, descendants, neighbors]

/-- The mark before a member. -/
def symbol : Visibility → Char
  | everyone => '+'
  | itself => '-'
  | descendants => '#'
  | neighbors => '~'

def ofSymbol? (c : Char) : Option Visibility :=
  all.find? fun visibility => visibility.symbol = c

end Visibility

/-- An attribute or a method of a class. -/
structure Member where
  visibility : Visibility
  name : String
  typeName : String := ""
  isMethod : Bool
  isStatic : Bool := false
  isAbstract : Bool := false
deriving Repr, DecidableEq

/-- A member as it is drawn: mark, name and, if known, type. -/
def Member.line (member : Member) : String :=
  let start := String.ofList [member.visibility.symbol, ' '] ++ member.name
  if member.typeName = "" then start else start ++ ": " ++ member.typeName

/-- A class with its members. -/
structure ClassNode where
  name : String
  label : String
  kind : ClassKind
  generic : Option String := none
  stereotype : Option String := none
  attributes : List Member := []
  methods : List Member := []
deriving Repr, DecidableEq

namespace ClassNode

/-- A class about which nothing but its name and kind is known. -/
def bare (name : String) (kind : ClassKind) : ClassNode :=
  { name, label := name, kind }

/-- The label with the type parameters. -/
def title (node : ClassNode) : String :=
  match node.generic with
  | some parameters => node.label ++ "<" ++ parameters ++ ">"
  | none => node.label

/-- The line above the title: that of the kind, or else the stereotype. -/
def stereotypeLine? (node : ClassNode) : Option String :=
  node.kind.stereotype?.or (node.stereotype.map fun stereotype => "«" ++ stereotype ++ "»")

/-- The title with the line above it. -/
def heading (node : ClassNode) : String :=
  match node.stereotypeLine? with
  | some line => line ++ "\n" ++ node.title
  | none => node.title

/-- The members in the order in which they are drawn. -/
def members (node : ClassNode) : List Member :=
  node.attributes ++ node.methods

/-- Adds a member behind those of its sort. -/
def addMember (node : ClassNode) (member : Member) : ClassNode :=
  if member.isMethod then { node with methods := node.methods ++ [member] }
  else { node with attributes := node.attributes ++ [member] }

end ClassNode

/-- Classes, the relations between them, and notes. -/
structure ClassDiagram where
  classes : Table ClassNode := .empty
  relations : List Relation := []
  notes : List Note := []
deriving Repr, DecidableEq

end DiagramMarkup
