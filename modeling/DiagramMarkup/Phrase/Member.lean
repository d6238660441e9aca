import DiagramMarkup.Diagram.Classes
import DiagramMarkup.Text.Pattern

/-! # Members of a class

A member line holds a visibility mark, modifiers in braces, a name and a type. A line with an opening
parenthesis is a method unless a modifier says otherwise.
-/

namespace DiagramMarkup.Phrase

open Text

/-- Removes every place of a modifier; tells whether there was one. -/
def takeModifier (modifier : String) (s : List Char) : Bool × List Char :=
  if contains modifier.toList s then (true, trim (replace modifier.toList [] s)) else (false, s)

/-- Name and type of a method: the type stands behind the last closing parenthesis, perhaps after a
colon. -/
def methodParts (s : List Char) : List Char × List Char :=
  match cutLast ')' s with
  | none => (s, [])
  | some (before, after) =>
    let tail := trim after
    (trim (before ++ [')']), trim ((after? [':'] tail).getD tail))

/-- Name and type of an attribute: the type stands behind the first colon. -/
def attributeParts (s : List Char) : List Char × List Char :=
  match cutAt (· = ':') s with
  | none => (s, [])
  | some (before, after) => (trim before, trim after)

/-- Reads a member; a line without any text for a name holds none. -/
def member? (raw : List Char) : Option Member :=
  let s := trim (dropEnd (· = ',') (trim raw))
  let (static, s) := takeModifier "\x7bstatic\x7d" s
  let (classifier, s) := takeModifier "\x7bclassifier\x7d" s
  let (isAbstract, s) := takeModifier "\x7babstract\x7d" s
  let (asMethod, s) := takeModifier "\x7bmethod\x7d" s
  let (asField, s) := if asMethod then (false, s) else takeModifier "\x7bfield\x7d" s
  let (visibility, s) :=
    match s with
    | [] => (Visibility.everyone, s)
    | c :: rest =>
      match Visibility.ofSymbol? c with
      | some visibility => (visibility, trim rest)
      | none => (Visibility.everyone, s)
  if s.isEmpty then none
  else
    let isMethod := asMethod || (!asField && s.contains '(')
    let (name, typeName) := if isMethod then methodParts s else attributeParts s
    some {
      visibility
      name := String.ofList name
      typeName := String.ofList typeName
      isMethod
      isStatic := static || classifier
      isAbstract }

end DiagramMarkup.Phrase
