import Flowchart.Chart.Script

/-! # The text of a chart

A chart is a list of statements, a line each: its directives, the header with its direction, the
body, the definitions of class styles with the nodes that carry them, and the styles of links,
which go by the number of the edge.
-/

namespace Flowchart

/-- One statement of a chart. -/
inductive Statement where
  | directive (directive : DirectiveId)
  | header (direction : Direction)
  | body (line : BodyLine)
  /-- The style of the frame of a subgraph. -/
  | frame (chart : ChartId) (style : ClassId)
  /-- The style of nodes without a class. -/
  | defaultClass (style : ClassId)
  | classDefinition (style : ClassId)
  | classMembers (nodes : List NodeId) (style : ClassId)
  /-- The style of edges without a link style. -/
  | defaultLink (style : LinkStyle)
  /-- The style of the edge of a number. -/
  | link (number : Nat) (style : LinkStyle)
  deriving DecidableEq, Repr

/-! ## Statements -/

namespace Store

/-- The statement about the frame of a subgraph, if its style sets anything. -/
def frameOf (s : Store) (c : ChartId) : List Statement :=
  match (s.chart c).style with
  | some k => if (s.classStyle k).properties.declarations = "" then [] else [.frame c k]
  | none => []

/-- The statements of a line of the body: the end of a block is followed by the style of its
frame. -/
def bodyStatements (s : Store) (line : BodyLine) : List Statement :=
  match line with
  | .closing c => .body line :: s.frameOf c
  | _ => [.body line]

/-- The nodes of a chart that carry a class. -/
def carriers (s : Store) (c : ChartId) (k : ClassId) : List NodeId :=
  (s.chart c).nodes.filter fun n => (s.node n).classStyle == some k

/-- The definition of a class, and the nodes of the chart that carry it if there are any. -/
def classStatements (s : Store) (c : ChartId) (k : ClassId) : List Statement :=
  .classDefinition k :: if s.carriers c k = [] then [] else [.classMembers (s.carriers c k) k]

/-- The styles of the edges that have one, by their numbers. -/
def linkStatements (s : Store) (es : List EdgeId) : List Statement :=
  es.zipIdx.filterMap fun (e, number) => (s.edge e).link.map (.link number)

/-- The statements of a region, given the nodes that count as mentioned. -/
def statements (s : Store) (seen : Mentioned) (r : Region) : List Statement :=
  let c := s.chart r.chart
  c.directives.map .directive ++ [.header c.direction]
    ++ (playAll s seen (r.script s false)).1.flatMap s.bodyStatements
    ++ c.defaultClass.toList.map .defaultClass
    ++ c.classes.flatMap (s.classStatements r.chart)
    ++ c.defaultLink.toList.map .defaultLink
    ++ s.linkStatements (r.links s)

/-- The nodes that count as mentioned once a region is written: none of its own. -/
def mentionedAfter (s : Store) (seen : Mentioned) (r : Region) : Mentioned :=
  (playAll s seen (r.script s false)).2.release s r.chart

end Store

/-! ## Lines -/

/-- A node as it is mentioned. -/
def Mention.text (s : Store) (m : Mention) : String :=
  if m.declares then (s.node m.node).declaration else (s.node m.node).id

/-- An edge between two mentions of nodes. -/
def Edge.text (e : Edge) (source target : String) : String :=
  source ++ e.middle ++ target

/-- The blanks before an edge in a block. -/
def blockIndent : String := "    "

/-- The line of a statement of the body. -/
def BodyLine.text (s : Store) : BodyLine → String
  | edge nested e source target =>
    (if nested then blockIndent else "") ++ (s.edge e).text (source.text s) (target.text s)
  | node m => m.text s
  | opening c => "subgraph " ++ (s.chart c).name
  | closing _ => "end"

/-- The line of a statement. -/
def Statement.text (s : Store) : Statement → String
  | directive d => (s.directive d).text
  | header d => "flowchart " ++ Keyword.name d
  | body line => line.text s
  | frame c k => "style " ++ (s.chart c).name ++ " " ++ (s.classStyle k).properties.declarations
  | defaultClass k => (s.classStyle k).definition "default"
  | classDefinition k => (s.classStyle k).definition (s.classStyle k).name
  | classMembers ns k =>
    "class " ++ ",".intercalate (ns.map fun n => (s.node n).id) ++ " " ++ (s.classStyle k).name
  | defaultLink l => l.definition "default"
  | link number l => l.definition (toString number)

namespace Store

/-- The text of a region. -/
def renderRegion (s : Store) (seen : Mentioned) (r : Region) : String :=
  "\n".intercalate ((s.statements seen r).map (Statement.text s))

/-- The text of a chart and the nodes that count as mentioned after it, if its nesting ends. -/
def render? (s : Store) (seen : Mentioned) (c : ChartId) : Option (String × Mentioned) :=
  (s.region? c).map fun r => (s.renderRegion seen r, s.mentionedAfter seen r)

/-- The text of a lone node, and the nodes mentioned after it. -/
def renderNode (s : Store) (seen : Mentioned) (n : NodeId) : String × Mentioned :=
  ((seen.mention n).text s, seen.add n)

/-- The text of a lone edge, and the nodes mentioned after it. -/
def renderEdge (s : Store) (seen : Mentioned) (e : EdgeId) : String × Mentioned :=
  let edge := s.edge e
  let after := seen.add edge.source.node
  (edge.text ((seen.mention edge.source.node).text s) ((after.mention edge.target.node).text s),
    after.add edge.target.node)

end Store

/-! ## The format -/

/-- The name of the format's notation. -/
def rendererName : String := "mermaid"

/-- The name of the format of a chart. -/
def chartFormat : String := "mermaid-flowchart"

/-- The name of the format of a machine. -/
def machineFormat : String := "mermaid-state-machine"

end Flowchart
