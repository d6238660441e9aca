import DiagramMarkup.Drawio.Document
import DiagramMarkup.Drawio.Lines
import DiagramMarkup.Drawio.Payload
import DiagramMarkup.Layout.Diagram
import DiagramMarkup.Number.Decimal
import DiagramMarkup.Reading.Engine
import DiagramMarkup.Svg.Document
import DiagramMarkup.Time.Stamp

/-! # From texts to documents

A diagram is laid out once, and both documents, for draw.io and as a picture, are drawn from that
layout. Converting a text is reading it and rendering the diagram.
-/

namespace DiagramMarkup

/-- What a rendering depends on besides the diagram. -/
structure RenderOptions (α : Type) where
  settings : Settings α
  /-- Whether the draw.io document holds its graph packed. -/
  packed : Bool := false
  page : String := "Page-1"
  /-- The time of the last change, in milliseconds since the beginning of 1970. -/
  modified : Int
deriving Repr, DecidableEq

/-- The two drawings of a diagram, with the numbers of its elements and relations. -/
structure Rendering where
  drawio : String
  svg : String
  elements : Nat
  relations : Nat
deriving Repr, DecidableEq

/-- Why a diagram is not rendered. -/
inductive RenderError
  | empty
  /-- The layout does not fit the diagram. -/
  | unfit (fault : LayoutFault)
deriving Repr, DecidableEq

def RenderError.message : RenderError → String
  | empty => "no valid elements found"
  | unfit fault => fault.message

namespace Diagram

variable {α : Type} [Scalar α]

/-- The draw.io document of a diagram with its layout and links. -/
def drawio (write : α → String) (options : RenderOptions α) (l : Layout α) (links : List (Link α))
    (d : Diagram) : Except LayoutFault String := do
  let graph ← d.content.graph l links
  let header : Drawio.Header := ⟨options.page, Time.stamp options.modified⟩
  return String.ofList <|
    if options.packed then header.printPacked (Drawio.pack (String.ofList (graph.print write)))
    else header.printOpen write graph

/-- The picture of a diagram with its layout and links, as a text. -/
def svg (write : α → String) (settings : Settings α) (l : Layout α) (links : List (Link α))
    (d : Diagram) : Except LayoutFault String := do
  let picture ← d.picture settings l links
  return String.ofList (picture.print write)

/-- Both documents of a diagram that is not empty. -/
def render (write : α → String) (measure : Measure α) (options : RenderOptions α) (d : Diagram) :
    Except RenderError Rendering :=
  if d.content.isEmpty then .error .empty
  else
    let l := d.content.layout options.settings measure
    let links := d.content.links l
    match d.drawio write options l links, d.svg write options.settings l links with
    | .ok drawio, .ok svg =>
      .ok
        { drawio
          svg
          elements := d.content.nodeCount
          relations := d.content.relations.length }
    | .error fault, _ => .error (.unfit fault)
    | .ok _, .error fault => .error (.unfit fault)

end Diagram

/-- Why a text cannot be converted. -/
inductive ConversionError
  | unread (error : ReadError)
  | unrendered (error : RenderError)
deriving Repr, DecidableEq

def ConversionError.message : ConversionError → String
  | unread error => error.message
  | unrendered error => error.message

/-- Reads a text and renders its diagram with the usual measure. -/
def convert (engine : Engine) (strict : Bool) (options : RenderOptions Float) (text : String) :
    Except ConversionError Rendering :=
  match engine.read strict text with
  | .error error => .error (.unread error)
  | .ok parsed =>
    let measure := CellFactors.standard.measure options.settings.fontSize
    match parsed.diagram.render Number.drawn measure options with
    | .error error => .error (.unrendered error)
    | .ok rendering => .ok rendering

end DiagramMarkup
