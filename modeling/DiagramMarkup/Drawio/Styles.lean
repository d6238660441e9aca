import DiagramMarkup.Drawio.Graph
import DiagramMarkup.Layout.Fault
import DiagramMarkup.Layout.Links
import DiagramMarkup.Layout.Sizes

/-! # Styles of cells -/

namespace DiagramMarkup.Drawio

namespace Style

variable {α : Type}

/-- A style without numbers that depend on a layout. -/
def ofText (s : String) : Style α :=
  [.text s]

def row : Style α :=
  ofText "text;strokeColor=none;fillColor=none;align=left;verticalAlign=top;spacingLeft=4;spacingRight=4;overflow=hidden;rotatable=0;points=[[0,0.5],[1,0.5]];portConstraint=eastwest;"

/-- The line between two compartments. -/
def separator : Style α :=
  ofText "line;strokeWidth=1;fillColor=none;align=left;verticalAlign=middle;spacingTop=-1;spacingLeft=3;spacingRight=3;rotatable=0;labelPosition=right;points=[];portConstraint=eastwest;"

/-- A note, a sheet with a folded corner. -/
def note : Style α :=
  ofText "shape=note;whiteSpace=wrap;html=1;backgroundOutline=1;darkOpacity=0.05;fillColor=#fff2cc;strokeColor=#d6b656;size=14;align=left;spacingLeft=5;"

def boundary : Style α :=
  ofText "swimlane;whiteSpace=wrap;html=1;startSize=24;fillColor=none;strokeColor=#666666;"

def partition : Style α :=
  ofText "swimlane;whiteSpace=wrap;html=1;startSize=24;fillColor=none;strokeColor=#666666;dashed=1;"

def lane : Style α :=
  ofText "swimlane;whiteSpace=wrap;html=1;startSize=30;fillColor=#f5f5f5;strokeColor=#666666;"

/-- The ring around the end of an activity. -/
def ring : Style α :=
  ofText "ellipse;whiteSpace=wrap;html=1;aspect=fixed;fillColor=none;strokeColor=#000000;strokeWidth=2;"

/-- The line of a divider across all lifelines. -/
def divider : Style α :=
  ofText "line;strokeWidth=1;dashed=1;html=1;fillColor=none;labelPosition=center;verticalLabelPosition=top;align=center;verticalAlign=bottom;"

/-- A text at an end of a line. -/
def edgeLabel : Style α :=
  ofText "edgeLabel;resizable=0;html=1;align=left;verticalAlign=bottom;"

/-- A container of rows below a title of the given height. -/
def container (title : α) (colors : Colors) : Style α :=
  [.text "swimlane;fontStyle=1;align=center;verticalAlign=top;childLayout=stackLayout;horizontal=1;horizontalStack=0;resizeParent=1;resizeParentMax=0;resizeLast=0;collapsible=1;marginBottom=0;startSize=",
    .number title,
    .text (";fillColor=" ++ colors.fill ++ ";strokeColor=" ++ colors.stroke ++ ";")]

/-- A class, in the colours of its kind. -/
def ofClass [Scalar α] (node : ClassNode) : Style α :=
  container node.headerHeight node.kind.colors

def entity [Scalar α] : Style α :=
  container titleHeight Palette.gray

def ofState (kind : StateKind) : Style α :=
  ofText <|
    match kind with
    | .initial =>
      "ellipse;whiteSpace=wrap;html=1;aspect=fixed;fillColor=#000000;strokeColor=#000000;"
    | .final =>
      "ellipse;shape=doubleEllipse;whiteSpace=wrap;html=1;aspect=fixed;fillColor=#000000;strokeColor=#000000;"
    | .fork => "rounded=0;html=1;fillColor=#000000;strokeColor=#000000;"
    | .join => "rounded=0;html=1;fillColor=#000000;strokeColor=#000000;"
    | .choice => "rhombus;whiteSpace=wrap;html=1;fillColor=#fff2cc;strokeColor=#d6b656;"
    | .composite =>
      "swimlane;rounded=1;whiteSpace=wrap;html=1;startSize=26;fillColor=#dae8fc;strokeColor=#6c8ebf;"
    | .normal => "rounded=1;whiteSpace=wrap;html=1;fillColor=#dae8fc;strokeColor=#6c8ebf;"

/-- A deployed thing, in the shape that is usual for its archetype. -/
def ofArchetype (archetype : Archetype) : Style α :=
  ofText <|
    match archetype with
    | .node =>
      "shape=cube;whiteSpace=wrap;html=1;boundedLbl=1;backgroundOutline=1;darkOpacity=0.05;darkOpacity2=0.1;size=10;fillColor=#dae8fc;strokeColor=#6c8ebf;"
    | .database =>
      "shape=cylinder3;whiteSpace=wrap;html=1;boundedLbl=1;backgroundOutline=1;size=15;fillColor=#dae8fc;strokeColor=#6c8ebf;"
    | .cloud => "ellipse;shape=cloud;whiteSpace=wrap;html=1;fillColor=#dae8fc;strokeColor=#6c8ebf;"
    | .artifact =>
      "shape=note;whiteSpace=wrap;html=1;backgroundOutline=1;size=12;fillColor=#ffffff;strokeColor=#6c8ebf;"
    | .folder =>
      "shape=folder;whiteSpace=wrap;html=1;tabWidth=40;tabHeight=14;tabPosition=left;fillColor=#dae8fc;strokeColor=#6c8ebf;"
    | .frame => "shape=umlFrame;whiteSpace=wrap;html=1;fillColor=none;strokeColor=#6c8ebf;"
    | .package =>
      "shape=folder;whiteSpace=wrap;html=1;tabWidth=50;tabHeight=16;tabPosition=left;fillColor=#f5f5f5;strokeColor=#666666;"
    | .queue =>
      "shape=cylinder3;whiteSpace=wrap;html=1;boundedLbl=1;backgroundOutline=1;size=15;direction=south;fillColor=#dae8fc;strokeColor=#6c8ebf;"
    | .storage =>
      "shape=cylinder3;whiteSpace=wrap;html=1;boundedLbl=1;backgroundOutline=1;size=8;fillColor=#f5f5f5;strokeColor=#666666;"
    | .file =>
      "shape=note;whiteSpace=wrap;html=1;backgroundOutline=1;size=10;fillColor=#ffffff;strokeColor=#666666;"
    | .interface =>
      "ellipse;whiteSpace=wrap;html=1;aspect=fixed;fillColor=#ffffff;strokeColor=#6c8ebf;"
    | .rectangle => "rounded=0;whiteSpace=wrap;html=1;fillColor=#ffffff;strokeColor=#666666;"
    | .component =>
      "shape=component;align=left;spacingLeft=36;rounded=0;whiteSpace=wrap;html=1;fillColor=#dae8fc;strokeColor=#6c8ebf;"

def ofUseCase (kind : UseCaseKind) : Style α :=
  ofText <|
    match kind with
    | .actor =>
      "shape=umlActor;verticalLabelPosition=bottom;verticalAlign=top;html=1;outlineConnect=0;"
    | .useCase => "ellipse;whiteSpace=wrap;html=1;fillColor=#dae8fc;strokeColor=#6c8ebf;"

/-- What tells a lifeline of one kind of participant from others. -/
def lifelineHead : ParticipantKind → String
  | .actor => "participant=umlActor;"
  | .boundary => "participant=umlBoundary;"
  | .control => "participant=umlControl;"
  | .entity => "participant=umlEntity;"
  | .database => "participant=cylinder3;"
  | _ => "fillColor=#dae8fc;strokeColor=#6c8ebf;"

/-- A lifeline whose head has the given height. -/
def lifeline (kind : ParticipantKind) (headHeight : α) : Style α :=
  [.text "shape=umlLifeline;perimeter=lifelinePerimeter;whiteSpace=wrap;html=1;container=0;dropTarget=0;collapsible=0;recursiveResize=0;outlineConnect=0;portConstraint=eastwest;newEdgeStyle=\x7b\"edgeStyle\":\"elbowEdgeStyle\",\"elbow\":\"vertical\",\"curved\":0,\"rounded\":0\x7d;",
    .text (lifelineHead kind), .text "size=", .number headHeight, .text ";"]

/-- The line of a message: solid for calls, dashed for replies. -/
def messageLine : MessageKind → String
  | .sync => "html=1;verticalAlign=bottom;endArrow=block;endFill=1;rounded=0;"
  | .async => "html=1;verticalAlign=bottom;endArrow=open;endSize=8;rounded=0;"
  | .reply => "html=1;verticalAlign=bottom;endArrow=open;endSize=8;dashed=1;rounded=0;"

/-- A message that leaves one lifeline and reaches another at some parts of their lengths. -/
def message (kind : MessageKind) (leaves reaches : α) : Style α :=
  [.text (messageLine kind), .text "exitX=0.5;exitY=", .number leaves,
    .text ";exitDx=0;exitDy=0;entryX=0.5;entryY=", .number reaches,
    .text ";entryDx=0;entryDy=0;"]

def ofActivity (kind : ActivityKind) : Style α :=
  ofText <|
    match kind with
    | .start =>
      "ellipse;whiteSpace=wrap;html=1;aspect=fixed;fillColor=#000000;strokeColor=#000000;"
    | .stop =>
      "ellipse;whiteSpace=wrap;html=1;aspect=fixed;fillColor=#000000;strokeColor=#000000;strokeWidth=3;"
    | .decision => "rhombus;whiteSpace=wrap;html=1;fillColor=#fff2cc;strokeColor=#d6b656;"
    | .merge => "rhombus;whiteSpace=wrap;html=1;fillColor=#f5f5f5;strokeColor=#666666;"
    | .fork => "rounded=0;html=1;fillColor=#000000;strokeColor=#000000;"
    | .join => "rounded=0;html=1;fillColor=#000000;strokeColor=#000000;"
    | _ => "rounded=1;whiteSpace=wrap;html=1;fillColor=#dae8fc;strokeColor=#6c8ebf;"

/-- The line between two nodes of an activity: from the lower side to the upper one, or back around
the right side. -/
def flow (upwards : Bool) : Style α :=
  ofText <|
    if upwards then
      "endArrow=classic;html=1;rounded=0;edgeStyle=orthogonalEdgeStyle;exitX=1;exitY=0.5;exitDx=0;exitDy=0;entryX=1;entryY=0.5;entryDx=0;entryDy=0;"
    else
      "endArrow=classic;html=1;rounded=0;exitX=0.5;exitY=1;exitDx=0;exitDy=0;entryX=0.5;entryY=0;entryDx=0;entryDy=0;"

/-- A topic: a text without a box, the root, or any other topic. -/
def ofTopic (topic : Topic) : Style α :=
  ofText <|
    if topic.boxless then
      "text;html=1;strokeColor=none;fillColor=none;align=center;verticalAlign=middle;whiteSpace=wrap;"
    else if topic.parent.isNone then
      "ellipse;whiteSpace=wrap;html=1;fontStyle=1;fillColor=#dae8fc;strokeColor=#6c8ebf;"
    else "rounded=1;whiteSpace=wrap;html=1;arcSize=40;fillColor=#fff2cc;strokeColor=#d6b656;"

/-- The line from a topic to one below it. -/
def branch : Style α :=
  ofText "endArrow=none;html=1;curved=1;strokeColor=#666666;"

/-- The line of a relationship with marks at its ends. -/
def relationship (source target : Cardinality) (dashed : Bool) : Style α :=
  ofText <|
    "edgeStyle=entityRelationEdgeStyle;fontSize=12;html=1;endFill=0;startFill=0;startArrow=" ++
      source.arrowName ++ ";endArrow=" ++ target.arrowName ++ ";" ++
      (if dashed then "dashed=1;" else "")

/-- The line of a relation, with its head and its dashes. -/
def ofRelation (kind : RelationKind) : Style α :=
  ofText <|
    match kind with
    | .inherits => "endArrow=block;endSize=16;endFill=0;html=1;rounded=0;"
    | .implements => "endArrow=block;endSize=16;endFill=0;html=1;rounded=0;dashed=1;"
    | .composition =>
      "startArrow=diamondThin;startFill=1;startSize=24;endArrow=none;html=1;rounded=0;"
    | .aggregation =>
      "startArrow=diamondThin;startFill=0;startSize=24;endArrow=none;html=1;rounded=0;"
    | .dependency => "endArrow=open;endSize=12;html=1;rounded=0;dashed=1;"
    | .inclusion => "endArrow=open;endSize=12;html=1;rounded=0;dashed=1;"
    | .extension => "endArrow=open;endSize=12;html=1;rounded=0;dashed=1;"
    | .note => "endArrow=none;html=1;rounded=0;dashed=1;"
    | .containment => "endArrow=none;html=1;rounded=0;dashed=1;"
    | _ => "endArrow=open;endSize=12;html=1;rounded=0;"

/-- The line of a link outside of sequences, activities and mind maps. -/
def ofLink (link : Link α) : Style α :=
  match link.cardinalities with
  | some (source, target) => relationship source target link.dashed
  | none => ofRelation link.kind

end Style

end DiagramMarkup.Drawio
