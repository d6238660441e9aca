import DiagramMarkup.Text.Cut

/-! # Arguments of the command line -/

namespace DiagramMarkup.CommandLine

/-- What the program is asked to do. -/
inductive Action
  | parse
  | detect
  | render
deriving Repr, DecidableEq

/-- What a diagram is rendered as. -/
inductive Format
  | drawio
  | svg
deriving Repr, DecidableEq

/-- The format that a word names, blanks around it and capitals notwithstanding. -/
def Format.ofWord? (word : String) : Option Format :=
  match String.ofList (Text.lower (Text.trim word.toList)) with
  | "drawio" => some .drawio
  | "xml" => some .drawio
  | "svg" => some .svg
  | _ => none

/-- What the arguments ask for. -/
structure Request where
  action : Action := .parse
  /-- The file to read; a hyphen stands for the standard input. -/
  input : Option String := none
  pretty : Bool := false
  withMeta : Bool := false
  strict : Bool := false
  packed : Bool := false
  format : Format := .drawio
  settings : Option String := none
  page : Option String := none
  /-- The file to write; a hyphen stands for the standard output. -/
  output : Option String := none
deriving Repr, DecidableEq

namespace Request

/-- Sets the input, which can be given once. -/
def setInput? (r : Request) (path : String) : Option Request :=
  if r.input.isNone then some { r with input := some path } else none

/-- Sets the title of the page; a blank one is ignored. -/
def setPage (r : Request) (title : String) : Request :=
  let title := Text.trim title.toList
  if title.isEmpty then r else { r with page := some (String.ofList title) }

def isOption (argument : String) : Bool :=
  Text.hasStart ['-'] argument.toList

/-- Takes an argument that stands alone. -/
def word? (r : Request) (argument : String) : Option Request :=
  match argument with
  | "parse" => some { r with action := .parse }
  | "detect" => some { r with action := .detect }
  | "render" => some { r with action := .render }
  | "--pretty" => some { r with pretty := true }
  | "--meta" => some { r with withMeta := true }
  | "--strict" => some { r with strict := true }
  | "--compressed" => some { r with packed := true }
  | "-" => r.setInput? "-"
  | _ => if isOption argument then none else r.setInput? argument

/-- Reads arguments behind a request. Behind `--` there is at most one argument, and it is the input
whatever it looks like. -/
def read? (r : Request) : List String → Option Request
  | [] => some r
  | ["--"] => some r
  | ["--", path] => r.setInput? path
  | "--" :: _ => none
  | "--format" :: word :: rest =>
    match Format.ofWord? word with
    | some format => read? { r with format } rest
    | none => none
  | "--config" :: path :: rest => read? { r with settings := some path } rest
  | "--name" :: title :: rest => read? (r.setPage title) rest
  | "--out" :: path :: rest => read? { r with output := some path } rest
  | argument :: rest =>
    match r.word? argument with
    | some r => read? r rest
    | none => none

def ofArguments? (arguments : List String) : Option Request :=
  read? {} arguments

end Request

def usage : String :=
  "pumldraw-cli

USAGE:
pumldraw-cli [parse] [--pretty] [--meta] [--strict] [<path>|-]
pumldraw-cli detect [<path>|-]
pumldraw-cli render [--format drawio|svg] [--compressed] [--strict] [--config <file.json>] [--name <page>] [--out <path>] [<path>|-]

NOTES:
- If <path> is omitted or '-', input is read from stdin.
- parse prints the typed JSON model; --meta adds kind, title and skipped-line diagnostics.
- render prints the draw.io document to stdout by default; use --out to write a file.
- --config reads a JSON object of layout settings; missing keys keep their defaults.
- Set PUMLDRAW_LOG (e.g. debug, pumldraw_core=trace) to see pipeline logs on stderr.

EXIT CODES:
1 on I/O, parse or render errors, 2 on usage errors, 3 when nothing drawable was found.
"

end DiagramMarkup.CommandLine
