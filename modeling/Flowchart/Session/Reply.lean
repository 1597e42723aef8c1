import Flowchart.Machine.Chart

/-! # The replies of a session

A step is answered with the state of the thing that it worked on, as it is after the step.
-/

namespace Flowchart

/-- What a node is. -/
structure NodeView where
  id : String
  text : String
  shape : Option Shape
  /-- The name of its class. -/
  className : Option String
  /-- Whether it counts as mentioned. -/
  mentioned : Bool

/-- What one end of an edge is. -/
structure EndpointView where
  /-- The identifier of its node. -/
  node : String
  arrow : Bool
  style : ArrowStyle

/-- The name and the declarations of a style. -/
structure StyleView where
  name : String
  declarations : String

/-- What an edge is. -/
structure EdgeView where
  source : EndpointView
  target : EndpointView
  depth : Nat
  line : LineStyle
  label : Option String
  link : Option StyleView
  /-- The number of glyphs of its line. -/
  length : Nat

/-- What a directive is. -/
structure DirectiveView where
  theme : Option String
  font : Option String
  curve : Option Curve
  text : String

/-- What a chart is. -/
structure ChartView where
  name : String
  direction : Direction
  /-- The identifiers of its nodes. -/
  nodes : List String
  /-- The identifiers of the ends of its edges. -/
  edges : List (String × String)
  /-- The names of its classes. -/
  classes : List String
  directiveCount : Nat
  /-- The names of its subgraphs. -/
  subgraphs : List String
  /-- The name of the style of its frame. -/
  style : Option String

/-- The answer to a step. -/
inductive Reply where
  | node (view : NodeView)
  | edge (view : EdgeView)
  | style (view : StyleView)
  | directive (view : DirectiveView)
  | chart (view : ChartView)
  | text (text : String)
  | optionalText (text : Option String)
  | flag (value : Bool)
  /-- The value of a layout option, if it is set. -/
  | option (value : Option Json.Value)
  | names (names : List String)
  /-- There is no such thing. -/
  | absent

namespace Workspace

variable (w : Workspace)

/-- A node as it is now. -/
def viewNode (n : NodeId) : NodeView :=
  let x := w.store.node n
  { id := x.id, text := x.text, shape := x.shape
    className := x.classStyle.map fun k => (w.store.classStyle k).name
    mentioned := decide (n ∈ w.seen) }

/-- One end of an edge as it is now. -/
def viewEndpoint (e : Endpoint) : EndpointView :=
  { node := (w.store.node e.node).id, arrow := e.arrow, style := e.style }

/-- An edge as it is now. -/
def viewEdge (e : EdgeId) : EdgeView :=
  let x := w.store.edge e
  { source := w.viewEndpoint x.source, target := w.viewEndpoint x.target, depth := x.depth
    line := x.line, label := x.label
    link := x.link.map fun l => ⟨l.name, l.properties.declarations⟩
    length := x.lineLength }

/-- A class style as it is now. -/
def viewClass (k : ClassId) : StyleView :=
  let x := w.store.classStyle k
  ⟨x.name, x.properties.declarations⟩

/-- A directive as it is now. -/
def viewDirective (d : DirectiveId) : DirectiveView :=
  let x := w.store.directive d
  { theme := x.theme, font := x.fontFamily, curve := x.curve, text := x.text }

/-- A chart as it is now. -/
def viewChart (c : ChartId) : ChartView :=
  let x := w.store.chart c
  let id := fun n => (w.store.node n).id
  { name := x.name, direction := x.direction, nodes := x.nodes.map id
    edges := x.edges.map fun e => (id (w.store.edge e).source.node, id (w.store.edge e).target.node)
    classes := x.classes.map fun k => (w.store.classStyle k).name
    directiveCount := x.directives.length
    subgraphs := x.subgraphs.map fun s => (w.store.chart s).name
    style := x.style.map fun k => (w.store.classStyle k).name }

end Workspace

end Flowchart
