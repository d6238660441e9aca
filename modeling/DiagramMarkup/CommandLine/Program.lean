import DiagramMarkup.CommandLine.Arguments
import DiagramMarkup.Conversion
import DiagramMarkup.Form.Diagram
import DiagramMarkup.Form.Settings
import DiagramMarkup.Json.Printer

/-! # The program

The program reads files and its standard input, and answers with an exit code and texts. Where these
come from and go to is left to a host.
-/

namespace DiagramMarkup.CommandLine

/-- The access of the program to the outside. A failure is given by the text of its cause. -/
structure Host (m : Type → Type) where
  load : (path : String) → m (Except String String)
  input : m (Except String String)
  save : (path text : String) → m (Except String Unit)
  /-- The milliseconds since the beginning of 1970. -/
  now : m Int

/-- What a run leaves behind: its exit code and what it wrote. -/
structure Outcome where
  code : Nat
  output : String := ""
  errors : String := ""
deriving Repr, DecidableEq

/-- Why a run fails. -/
inductive Failure
  | usage
  | access (cause : String)
  | settings
  | conversion (error : ConversionError)
deriving Repr, DecidableEq

namespace Failure

def message : Failure → String
  | usage => CommandLine.usage
  | access cause => "I/O error: " ++ cause
  | settings => "invalid --config: layout config JSON error: unreadable settings"
  | conversion error => error.message

/-- The exit code of a failure; a diagram without elements has one of its own. -/
def code : Failure → Nat
  | usage => 2
  | access _ => 1
  | settings => 1
  | conversion (.unrendered .empty) => 3
  | conversion _ => 1

/-- A run that fails writes nothing but the message. -/
def outcome (failure : Failure) : Outcome where
  code := failure.code
  errors := failure.message ++ "\n"

end Failure

/-- A diagram with its kind and the lines that were skipped. -/
def metaJson (parsed : Parsed) : Json :=
  .object
    [("kind", .string parsed.kind.name), ("title", .ofOption .string parsed.diagram.title),
      ("diagnostics", .array (parsed.diagnostics.map Diagnostic.toJson)),
      ("model", parsed.diagram.toJson)]

namespace Request

/-- The diagram that a text describes, as the request wants it printed. -/
def parse (r : Request) (text : String) : Except Failure String :=
  match ({} : Engine).read r.strict text with
  | .error error => .error (.conversion (.unread error))
  | .ok parsed =>
    let json := if r.withMeta then metaJson parsed else parsed.diagram.toJson
    .ok ((if r.pretty then json.pretty else json.compact) ++ "\n")

/-- Renders a text in the format that was asked for. -/
def render (r : Request) (settings : Settings Float) (modified : Int) (text : String) :
    Except Failure String :=
  let usual : RenderOptions Float := { settings, modified, packed := r.packed }
  let options :=
    match r.page with
    | some page => { usual with page }
    | none => usual
  match convert {} r.strict options text with
  | .error error => .error (.conversion error)
  | .ok rendering =>
    .ok <|
      match r.format with
      | .drawio => rendering.drawio
      | .svg => rendering.svg

variable {m : Type → Type} [Monad m]

/-- The settings from the file that was named, or the usual ones. -/
def loadSettings (host : Host m) (r : Request) : m (Except Failure (Settings Float)) := do
  match r.settings with
  | none => return .ok .standard
  | some path =>
    match ← host.load path with
    | .error cause => return .error (.access cause)
    | .ok text =>
      match Settings.ofText? text with
      | some settings => return .ok settings
      | none => return .error .settings

/-- The text to read, from the file that was named or from the standard input. -/
def loadInput (host : Host m) (r : Request) : m (Except Failure String) := do
  let read : m (Except String String) :=
    match r.input with
    | none => host.input
    | some "-" => host.input
    | some path => host.load path
  match ← read with
  | .error cause => return .error (.access cause)
  | .ok text => return .ok text

/-- Writes a text to the file that was named or to the standard output. -/
def deliver (host : Host m) (r : Request) (text : String) : m Outcome := do
  match r.output with
  | none => return { code := 0, output := text }
  | some "-" => return { code := 0, output := text }
  | some path =>
    match ← host.save path text with
    | .ok _ => return { code := 0 }
    | .error cause => return (Failure.access cause).outcome

/-- Does what was asked with a text that was read. -/
def carryOut (host : Host m) (r : Request) (settings : Settings Float) (text : String) :
    m Outcome := do
  match r.action with
  | .detect => return { code := 0, output := (({} : Engine).detect text).name ++ "\n" }
  | .parse =>
    match r.parse text with
    | .ok output => return { code := 0, output }
    | .error failure => return failure.outcome
  | .render =>
    match r.render settings (← host.now) text with
    | .ok document => r.deliver host document
    | .error failure => return failure.outcome

/-- Carries out a request. Settings are read before the input, whether or not they are needed. -/
def run (host : Host m) (r : Request) : m Outcome := do
  match ← r.loadSettings host with
  | .error failure => return failure.outcome
  | .ok settings =>
    match ← r.loadInput host with
    | .error failure => return failure.outcome
    | .ok text => r.carryOut host settings text

end Request

/-- Runs the program with its arguments. -/
def run {m : Type → Type} [Monad m] (host : Host m) (arguments : List String) : m Outcome :=
  match Request.ofArguments? arguments with
  | some request => request.run host
  | none => return Failure.usage.outcome

end DiagramMarkup.CommandLine
