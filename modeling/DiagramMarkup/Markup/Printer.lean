import DiagramMarkup.Markup.Tree

/-! # Printing markup

A tree is printed on one line, or with every tag on a line of its own, indented by two blanks for
every level. An element without children is a single tag.
-/

namespace DiagramMarkup.Markup

/-! ## Escaping

The characters that have a meaning in markup are written as entities inside of texts and attributes.
-/

/-- How a character is written in a text. -/
def escapeChar : Char → List Char
  | '&' => "&amp;".toList
  | '<' => "&lt;".toList
  | '>' => "&gt;".toList
  | '"' => "&quot;".toList
  | '\'' => "&apos;".toList
  | c => [c]

/-- A text with its special characters written as entities. -/
def escapeText (s : List Char) : List Char :=
  s.flatMap escapeChar

/-- How a character is written in an attribute, where line breaks would be lost. -/
def escapeAttributeChar : Char → List Char
  | '\n' => "&#xa;".toList
  | c => escapeChar c

/-- The value of an attribute with its special characters written as entities. -/
def escapeAttribute (s : List Char) : List Char :=
  s.flatMap escapeAttributeChar

/-! ## Trees -/

variable {α : Type}

/-- A piece as a text, given how numbers are written. -/
def Piece.print (write : α → String) : Piece α → List Char
  | text s => s.toList
  | number x => (write x).toList

/-- The value of an attribute before anything is escaped. -/
def Attribute.plainValue (write : α → String) (a : Attribute α) : List Char :=
  a.value.flatMap (Piece.print write)

/-- An attribute as it stands in a tag, with the blank before it. -/
def Attribute.print (write : α → String) (a : Attribute α) : List Char :=
  ' ' :: a.name.toList ++ '=' :: '"' :: escapeAttribute (a.plainValue write) ++ ['"']

/-- The inside of the tag that starts an element. -/
def printStart (write : α → String) (name : String) (attributes : List (Attribute α)) : List Char :=
  name.toList ++ attributes.flatMap (Attribute.print write)

def emptyTag (write : α → String) (name : String) (attributes : List (Attribute α)) : List Char :=
  '<' :: printStart write name attributes ++ ['/', '>']

def startTag (write : α → String) (name : String) (attributes : List (Attribute α)) : List Char :=
  '<' :: printStart write name attributes ++ ['>']

def endTag (name : String) : List Char :=
  '<' :: '/' :: name.toList ++ ['>']

mutual

/-- A tree on one line. -/
def print (write : α → String) : Markup α → List Char
  | text s => escapeText s.toList
  | element name attributes [] => emptyTag write name attributes
  | element name attributes children =>
    startTag write name attributes ++ (printAll write children ++ endTag name)

/-- Trees one behind the other on one line. -/
def printAll (write : α → String) : List (Markup α) → List Char
  | [] => []
  | tree :: trees => print write tree ++ printAll write trees

end

def line (level : Nat) (s : List Char) : List Char :=
  List.replicate (2 * level) ' ' ++ s ++ ['\n']

mutual

/-- A tree with every tag on a line of its own, from a level on. -/
def printLines (write : α → String) (level : Nat) : Markup α → List Char
  | text s => line level (escapeText s.toList)
  | element name attributes [] => line level (emptyTag write name attributes)
  | element name attributes children =>
    line level (startTag write name attributes) ++
      (printAllLines write (level + 1) children ++ line level (endTag name))

/-- Trees one below the other, all at the same level. -/
def printAllLines (write : α → String) (level : Nat) : List (Markup α) → List Char
  | [] => []
  | tree :: trees => printLines write level tree ++ printAllLines write level trees

end

end DiagramMarkup.Markup
