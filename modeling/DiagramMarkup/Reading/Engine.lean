import DiagramMarkup.Reading.Activity
import DiagramMarkup.Reading.Classes
import DiagramMarkup.Reading.Deployment
import DiagramMarkup.Reading.Entities
import DiagramMarkup.Reading.MindMap
import DiagramMarkup.Reading.Sequence
import DiagramMarkup.Reading.States
import DiagramMarkup.Reading.UseCases
import DiagramMarkup.Source.Cleaning
import DiagramMarkup.Source.Detection

/-! # From a text to a diagram

An engine cleans a text, tells its kind, and has the reader of that kind read it. Where it is strict,
a line that was skipped is an error.
-/

namespace DiagramMarkup

/-- Why a text gives no diagram. -/
inductive ReadError
  /-- Lines were skipped by a strict reading; the first of them is given. -/
  | unrecognized (kind : Kind) (count : Nat) (first : Diagnostic)
  /-- There is no reader for the kind. -/
  | noReader (kind : Kind)
  /-- The nodes of an activity have no flow. -/
  | noFlow (fault : FlowFault)
deriving Repr, DecidableEq

def ReadError.message : ReadError → String
  | unrecognized kind count first =>
    "Unrecognized input (" ++ kind.name ++ "): " ++ toString count ++
      " line(s) skipped, first at line " ++ toString first.line ++ ": " ++ first.text
  | noReader kind => "Diagram parse error (" ++ kind.name ++ "): no parser registered"
  | noFlow fault => "Diagram parse error (activity): " ++ fault.message

/-- A reader of the lines of one kind of diagram. -/
abbrev Reader : Type :=
  List Line → Except ReadError (Content × List Diagnostic)

/-- The reader of a kind. -/
def Reader.standard (kind : Kind) : Reader := fun lines =>
  match kind with
  | .classes => .ok ((ClassDiagram.ofLines lines).map .classes id)
  | .sequence => .ok ((SequenceDiagram.ofLines lines).map .sequence id)
  | .states => .ok ((StateDiagram.ofLines lines).map .states id)
  | .mindMap => .ok ((MindMap.ofLines lines).map .mindMap id)
  | .entities => .ok ((EntityDiagram.ofLines lines).map .entities id)
  | .deployment => .ok ((DeploymentDiagram.ofLines lines).map .deployment id)
  | .useCases => .ok ((UseCaseDiagram.ofLines lines).map .useCases id)
  | .activity =>
    match ActivityDiagram.ofLines lines with
    | .ok (d, diagnostics) => .ok (.activity d, diagnostics)
    | .error fault => .error (.noFlow fault)

/-- A diagram that was read, the kind under which it was read, and the lines that were skipped. -/
structure Parsed where
  kind : Kind
  diagram : Diagram
  diagnostics : List Diagnostic
deriving Repr, DecidableEq

/-- The rules that tell kinds, and the readers of the kinds. -/
structure Engine where
  detection : Detection := .standard
  reader? : Kind → Option Reader := fun kind => some (.standard kind)

namespace Engine

def detect (engine : Engine) (text : String) : Kind :=
  engine.detection.detect (.ofText text)

def setReader (engine : Engine) (kind : Kind) (reader : Reader) : Engine :=
  { engine with reader? := fun k => if k = kind then some reader else engine.reader? k }

/-- Reads a source of a given kind, skipping lines that cannot be placed. A source without lines is
an empty diagram. -/
def readLenient (engine : Engine) (kind : Kind) (source : Source) : Except ReadError Parsed :=
  if source.isEmpty then .ok ⟨kind, ⟨source.title, .empty kind⟩, []⟩
  else
    match engine.reader? kind with
    | none => .error (.noReader kind)
    | some reader =>
      match reader source.lines with
      | .error e => .error e
      | .ok (content, diagnostics) => .ok ⟨kind, ⟨source.title, content⟩, diagnostics⟩

/-- Reads a source of a given kind. -/
def readSource (engine : Engine) (kind : Kind) (strict : Bool) (source : Source) :
    Except ReadError Parsed :=
  match engine.readLenient kind source with
  | .error e => .error e
  | .ok parsed =>
    match strict, parsed.diagnostics with
    | true, first :: _ => .error (.unrecognized kind parsed.diagnostics.length first)
    | _, _ => .ok parsed

/-- Reads a text, whose kind is told from its lines unless it is given. -/
def read (engine : Engine) (strict : Bool) (text : String) (kind : Option Kind := none) :
    Except ReadError Parsed :=
  let source := Source.ofText text
  engine.readSource (kind.getD (engine.detection.detect source)) strict source

end Engine

/-- The kind that a word names, blanks around it and capitals notwithstanding. -/
def Kind.ofWord? (word : String) : Option Kind :=
  let word := String.ofList (Text.lower (Text.trim word.toList))
  Kind.all.find? fun kind => kind.name = word

end DiagramMarkup
