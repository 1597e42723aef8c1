import Flowchart.Directive
import Flowchart.Keyword.Direction
import Flowchart.Keyword.Shape
import Flowchart.Keyword.Stroke
import Flowchart.Style
import Flowchart.Text.Label

/-! # Nodes, edges and charts

Nodes, edges, class styles, directives and charts are shared: a chart holds references to them, and
so do edges and nodes, so that a change shows wherever the thing is referred to. A reference is the
place of the thing in the store; two things are the same if their references are. Link styles are
plain values.
-/

namespace Flowchart

/-- A reference to a node. -/
structure NodeId where
  index : Nat
  deriving DecidableEq, Repr, Inhabited

/-- A reference to an edge. -/
structure EdgeId where
  index : Nat
  deriving DecidableEq, Repr, Inhabited

/-- A reference to a class style. -/
structure ClassId where
  index : Nat
  deriving DecidableEq, Repr, Inhabited

/-- A reference to a directive. -/
structure DirectiveId where
  index : Nat
  deriving DecidableEq, Repr, Inhabited

/-- A reference to a chart. -/
structure ChartId where
  index : Nat
  deriving DecidableEq, Repr, Inhabited

/-! ## Nodes -/

/-- A node. Without a shape of its own it is a rectangle. -/
structure Node where
  id : String
  text : String := ""
  shape : Option Shape := none
  classStyle : Option ClassId := none
  deriving DecidableEq, Repr, Inhabited

/-- The declaration of a node: its identifier and its text in the brackets of its shape. A node
without text is declared by its identifier alone. -/
def Node.declaration (n : Node) : String :=
  if n.text = "" then n.id
  else n.id ++ (n.shape.getD .rect).wrap (Text.quoteLabel n.text)

/-! ## Edges -/

/-- One end of an edge: its node, and whether and how an arrowhead is drawn there. -/
structure Endpoint where
  node : NodeId
  arrow : Bool := false
  style : ArrowStyle := .pointed
  deriving DecidableEq, Repr, Inhabited

/-- An edge. -/
structure Edge where
  source : Endpoint
  target : Endpoint
  /-- The number of ranks that the edge spans beyond the first. -/
  depth : Nat := 0
  line : LineStyle := .solid
  label : Option String := none
  link : Option LinkStyle := none
  deriving DecidableEq, Repr, Inhabited

namespace Edge

/-- A plain line between two nodes. -/
def plain (source target : NodeId) : Edge :=
  { source := { node := source }, target := { node := target } }

/-- An edge with a pointed arrowhead at its target. -/
def arrowTo (source target : NodeId) : Edge :=
  { source := { node := source }, target := { node := target, arrow := true } }

/-- The nodes of an edge, the source first. -/
def nodes (e : Edge) : List NodeId :=
  [e.source.node, e.target.node]

/-- The number of glyphs of the line. An arrowhead takes the place of one glyph, and a dotted line
has an odd number, so that it ends as it begins. -/
def lineLength (e : Edge) : Nat :=
  let length := 3 + e.depth - (if e.source.arrow || e.target.arrow then 1 else 0)
  if e.line = .dotted ∧ length % 2 = 0 then length + 1 else length

/-- The arrowhead at one end, if there is one. -/
def head (e : Edge) : End → List Char
  | .source => if e.source.arrow then [e.source.style.glyph .source] else []
  | .target => if e.target.arrow then [e.target.style.glyph .target] else []

/-- The glyphs of the line. -/
def body (e : Edge) : List Char :=
  (List.range e.lineLength).map e.line.glyph

/-- The line with its arrowheads. -/
def connector (e : Edge) : String :=
  String.ofList (e.head .source ++ e.body ++ e.head .target)

/-- What stands between the texts of the two nodes: the connector, with a blank before it if no
arrowhead comes first, and the label or a blank after it. -/
def middle (e : Edge) : String :=
  (if e.source.arrow then "" else " ") ++ e.connector ++
    match e.label with
    | some label => "|" ++ Text.quoteLabel label ++ "| "
    | none => " "

end Edge

/-! ## Charts -/

/-- A chart: its name and direction, what it holds in the order of joining, and its styles. -/
structure Chart where
  name : String
  direction : Direction := .topBottom
  nodes : List NodeId := []
  edges : List EdgeId := []
  classes : List ClassId := []
  directives : List DirectiveId := []
  subgraphs : List ChartId := []
  /-- The style of nodes without a class. -/
  defaultClass : Option ClassId := none
  /-- The style of edges without a link style. -/
  defaultLink : Option LinkStyle := none
  /-- The style of the frame around the chart where it is a subgraph. -/
  style : Option ClassId := none
  deriving DecidableEq, Repr, Inhabited

end Flowchart
