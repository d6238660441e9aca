import DiagramMarkup.Source.Reading
import DiagramMarkup.Text.Cut

/-! # Cleaning a markup text

Comments, blank lines, document markers and directives about presentation are taken out, the title is
noted, and every other line is kept, trimmed, under its own number.
-/

namespace DiagramMarkup

/-- What the lines read so far leave open, and what they said about the document. -/
structure Cleaning where
  /-- Whether a block comment is open. -/
  inComment : Bool := false
  /-- How many braces of a block of style settings are open. -/
  styleDepth : Nat := 0
  title : Option String := none
  mindMapMarker : Bool := false
deriving Repr, DecidableEq

/-- What a line without comments is. -/
inductive LineRole
  /-- A document marker, which may announce a mind map. -/
  | marker (mindMap : Bool)
  /-- The first line of a block of style settings. -/
  | styleBlock
  /-- A directive about presentation. -/
  | directive
  /-- The title of the document. -/
  | title (text : String)
  /-- Diagram content. -/
  | content
deriving Repr, DecidableEq

open Text

/-- The beginnings, in small letters, of the directives that have no effect here. -/
def directiveStarts : List String :=
  ["skinparam", "hide ", "show ", "!", "scale ", "autonumber", "left to right direction",
    "top to bottom direction", "header ", "footer ", "caption "]

/-- The title that a line gives: what follows the word and a blank. -/
def titleOf? (text : List Char) : Option (List Char) :=
  match after? "title".toList text with
  | some rest => if startsBlank rest then some (trim rest) else none
  | none => none

/-- Tells what a trimmed line without comments is. -/
def LineRole.of (text : List Char) : LineRole :=
  let small := lower text
  if hasStart "@start".toList small || hasStart "@end".toList small then
    .marker (hasStart "@startmindmap".toList small)
  else if hasStart "skinparam".toList small && hasEnd ['{'] text then .styleBlock
  else if directiveStarts.any (fun start => hasStart start.toList small) then .directive
  else
    match titleOf? text with
    | some words => .title (String.ofList words)
    | none => .content

/-- Removes one block comment from a line, or what belongs to one that is open, and tells whether a
block comment is open after the line. -/
def uncomment (inComment : Bool) (raw : List Char) : List Char × Bool :=
  let open_ (text : List Char) : List Char × Bool :=
    match cut "/'".toList text with
    | none => (text, false)
    | some (before, rest) =>
      match cut "'/".toList rest with
      | none => (trim before, true)
      | some (_, after) => (trim (trim before ++ ' ' :: trim after), false)
  let text := trim raw
  if inComment then
    match cut "'/".toList text with
    | none => ([], true)
    | some (_, after) => open_ (trim after)
  else open_ text

namespace Cleaning

/-- Reads one more raw line; the result holds the text of the line if it is kept. -/
def step (state : Cleaning) (raw : List Char) : Cleaning × Option (List Char) :=
  let (text, inComment) := uncomment state.inComment raw
  let state := { state with inComment }
  match text with
  | [] => (state, none)
  | '\'' :: _ => (state, none)
  | _ =>
    if state.styleDepth > 0 then
      ({ state with styleDepth := state.styleDepth + count '{' text - count '}' text }, none)
    else
      match LineRole.of text with
      | .marker mindMap =>
        ({ state with mindMapMarker := state.mindMapMarker || mindMap }, none)
      | .styleBlock => ({ state with styleDepth := 1 }, none)
      | .directive => (state, none)
      | .title words => ({ state with title := some words }, none)
      | .content => (state, some text)

/-- Reads raw lines, the first of which has the given number, into the state after them and the lines
that are kept. -/
def run (state : Cleaning) (number : Nat) : List (List Char) → Cleaning × List Line
  | [] => (state, [])
  | raw :: raws =>
    let (next, kept) := state.step raw
    let (last, lines) := run next (number + 1) raws
    match kept with
    | some text => (last, ⟨number, String.ofList text⟩ :: lines)
    | none => (last, lines)

end Cleaning

/-- The source of a text: its lines that carry diagram content, its title and its marker. -/
def Source.ofText (text : String) : Source :=
  let (last, lines) := ({} : Cleaning).run 1 (splitAt '\n' text.toList)
  ⟨lines, last.title, last.mindMapMarker⟩

end DiagramMarkup
