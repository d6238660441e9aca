import DiagramMarkup.Diagram.States
import DiagramMarkup.Phrase.GridNote

/-! # Reading state diagrams

A state belongs to the composite state that is open where it is first named.
-/

namespace DiagramMarkup.StateDiagram

open Text Pattern Phrase

/-- What has been read of a state diagram. -/
structure Draft where
  diagram : StateDiagram := {}
  /-- The open composite states, the innermost first. -/
  scopes : List String := []
deriving Repr, DecidableEq

/-- The kind that a stereotype gives to a state, if it gives one. -/
def kindOfStereotype? (stereotype : List Char) : Option StateKind :=
  match String.ofList (lower (trim stereotype)) with
  | "fork" => some .fork
  | "join" => some .join
  | "choice" => some .choice
  | "end" => some .final
  | "start" => some .initial
  | _ => none

namespace Draft

/-- Makes sure that there is a state of a name; a new one becomes a child of the innermost open
state. The first and last states of a scope have no label. -/
def ensure (draft : Draft) (name : String) (kind : StateKind) : Draft :=
  let d := draft.diagram
  if d.states.contains name then draft
  else
    let parent := draft.scopes.head?.filter (· ≠ name)
    let label := if kind = .initial ∨ kind = .final then "" else name
    let containment :=
      parent.toList.map fun p => { source := p, target := name, kind := .containment : Relation }
    { draft with diagram := { d with
        states := d.states.insertNew name { name, label, kind, parent }
        relations := d.relations ++ containment } }

def change (draft : Draft) (name : String) (f : StateNode → StateNode) : Draft :=
  { draft with diagram.states := draft.diagram.states.modify name f }

def openScope (draft : Draft) (name : String) : Draft :=
  { draft with scopes := name :: draft.scopes }

/-- Closes the innermost composite state, if one is open. -/
def closeScope (draft : Draft) : Draft :=
  { draft with scopes := draft.scopes.tail }

/-- The state that an endpoint of an arrow means, with its kind: `[*]` is the first state of a scope
where the arrow starts and the last one where it ends. -/
def resolve (draft : Draft) (token : List Char) (isSource : Bool) : String × StateKind :=
  match before? "[*]".toList token with
  | some named =>
    let scope := if named.isEmpty then draft.scopes.head?.getD "" else String.ofList named
    if isSource then (scope ++ "[*]", .initial) else (scope ++ "[*]end", .final)
  | none => (String.ofList (unquote token), .normal)

/-- Makes sure that the endpoint of an arrow exists; the result holds its name. -/
def endpoint (draft : Draft) (token : List Char) (isSource : Bool) : Draft × String :=
  let (name, kind) := draft.resolve token isSource
  (draft.ensure name kind, name)

/-- Adds the transition of an arrow; a head at the left end turns it round. -/
def relate (draft : Draft) (arrow : Arrow) : Draft :=
  let reversed := arrow.leftHead = .pointer
  let (draft, source) := draft.endpoint (if reversed then arrow.right else arrow.left) true
  let (draft, target) := draft.endpoint (if reversed then arrow.left else arrow.right) false
  let relation : Relation :=
    { source, target, kind := .transition, label := arrow.label.map String.ofList }
  { draft with diagram.relations := draft.diagram.relations ++ [relation] }

def describe (draft : Draft) (name : String) (description : List Char) : Draft :=
  if description.isEmpty then draft
  else draft.change name fun node =>
    { node with descriptions := node.descriptions ++ [String.ofList description] }

/-- Declares a state, which may be known already and may open a scope. -/
def declare (draft : Draft) (declaration : List Char) : Draft :=
  let s := trim declaration
  let opens := hasEnd ['{'] s
  let s := if opens then trimEnd (dropEnd (· = '{') s) else s
  let (s, description) := splitLabel s
  let (s, stereotype) := takeStereotype s
  let (name, label) := nameAndLabel (stripColor s)
  if name.isEmpty then draft
  else
    let kind :=
      match stereotype with
      | some stereotype => (kindOfStereotype? stereotype).getD .normal
      | none => if opens then .composite else .normal
    let key := String.ofList name
    let draft := (draft.ensure key kind).change key fun node => { node with
      kind := if kind = .normal then node.kind else kind
      label := if label = name then node.label else String.ofList label }
    let draft := draft.describe key (description.getD [])
    if opens then draft.openScope key else draft

end Draft

/-- A line that describes a state: its name and the description. -/
def descriptionPattern : Pattern (List Char × List Char) := do
  let name ← quotedName <|> run1 fun c => isNameChar c || c = '.'
  blanks
  char ':'
  blanks
  let description ← restOfLine
  return (name, description)

/-- Reads a line: the end of a scope, a note, a declaration, a transition or a description. -/
def turn (draft : Draft) (line : Line) (rest : List Line) : Turn Draft rest :=
  let s := line.chars
  if line.text = "\x7d" then .took1 draft.closeScope
  else if line.text = "--" ∨ line.text = "||" then .took1 draft
  else
    match gridNote? draft.diagram.notes.length line rest with
    | some (note, left) =>
      .took { draft with diagram.notes := draft.diagram.notes ++ [note] } left
    | none =>
      match after? "state ".toList s with
      | some declaration => .took1 (draft.declare declaration)
      | none =>
        match arrow? s with
        | some arrow => .took1 (draft.relate arrow)
        | none =>
          match descriptionPattern.read? s with
          | some (name, description) =>
            let name := String.ofList (unquote name)
            let draft := draft.ensure name .normal
            .took1 (draft.describe name (unescapeBreaks (trim description)))
          | none => .skip draft "unrecognized state diagram line"

/-- Enters the states that notes are attached to, and gives notes names of their own. -/
def settleNotes (draft : Draft) : StateDiagram :=
  let targets := draft.diagram.notes.filterMap Note.target
  let d := (targets.foldl (fun draft target => draft.ensure target .normal) draft).diagram
  { d with notes := Note.renameColliding d.states.keys d.notes }

def ofLines (lines : List Line) : StateDiagram × List Diagnostic :=
  let (draft, diagnostics) := readAll turn {} lines
  (settleNotes draft, diagnostics)

end DiagramMarkup.StateDiagram
