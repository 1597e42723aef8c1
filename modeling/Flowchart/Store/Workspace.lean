import Flowchart.Chart.Render
import Flowchart.Names
import Flowchart.Store.Membership
import Flowchart.Text.Slug

/-! # The workspace

A workspace is what the steps of a session work on: the store, the nodes that count as mentioned,
and the counts of the generated names. A new chart draws a name; a copy of a chart takes over its
name and everything it holds, but its lists are its own.
-/

namespace Flowchart

/-- The store, the nodes that count as mentioned, and the generated names. -/
structure Workspace where
  store : Store := {}
  seen : Mentioned := []
  names : Names := {}
  deriving Inhabited

/-- An end of a connection: a node, or a text that stands for one. -/
inductive Terminal where
  | node (node : NodeId)
  | text (text : String)
  deriving DecidableEq, Repr

namespace Workspace

/-! ## Adding -/

/-- Adds a node. -/
def addNode (w : Workspace) (x : Node) : NodeId × Workspace :=
  let (n, store) := w.store.newNode x
  (n, { w with store })

/-- Adds an edge. -/
def addEdge (w : Workspace) (x : Edge) : EdgeId × Workspace :=
  let (e, store) := w.store.newEdge x
  (e, { w with store })

/-- Adds a class style. -/
def addClass (w : Workspace) (x : ClassStyle) : ClassId × Workspace :=
  let (k, store) := w.store.newClass x
  (k, { w with store })

/-- Adds a directive. -/
def addDirective (w : Workspace) (x : Directive) : DirectiveId × Workspace :=
  let (d, store) := w.store.newDirective x
  (d, { w with store })

/-- Adds a chart. -/
def addChart (w : Workspace) (x : Chart) : ChartId × Workspace :=
  let (c, store) := w.store.newChart x
  (c, { w with store })

@[simp]
theorem edge_addEdge_self (w : Workspace) (x : Edge) :
    (w.addEdge x).2.store.edge (w.addEdge x).1 = x :=
  Store.edge_newEdge_self w.store x

/-- Draws a name, or takes the one given. -/
def nameOr (w : Workspace) (s : NameKind) (name : Option String) : String × Workspace :=
  let (name, names) := w.names.nameOr s name
  (name, { w with names })

/-- Adds an empty chart under a generated name. -/
def newChart (w : Workspace) : ChartId × Workspace :=
  let (name, w) := w.nameOr .chart none
  w.addChart { name }

/-- Adds a node with the text, shape and class of another one. -/
def copyNode (w : Workspace) (n : NodeId) (id : Option String) : NodeId × Workspace :=
  let (id, w) := w.nameOr .node id
  w.addNode { w.store.node n with id }

/-- Adds a class style with the properties of another one. -/
def copyClass (w : Workspace) (k : ClassId) (name : Option String) : ClassId × Workspace :=
  let (name, w) := w.nameOr .classStyle name
  w.addClass { w.store.classStyle k with name }

/-- A link style with the properties of another one. -/
def copyLink (w : Workspace) (l : LinkStyle) (name : Option String) : LinkStyle × Workspace :=
  let (name, w) := w.nameOr .link name
  ({ l with name }, w)

/-- Adds a chart with the name, the settings and the members of another one. -/
def copyChart (w : Workspace) (c : ChartId) : ChartId × Workspace :=
  w.addChart (w.store.chart c)

/-! ## Changing -/

/-- Changes a node. -/
def updateNode (w : Workspace) (n : NodeId) (f : Node → Node) : Workspace :=
  { w with store := w.store.setNode n (f (w.store.node n)) }

/-- Changes an edge. -/
def updateEdge (w : Workspace) (e : EdgeId) (f : Edge → Edge) : Workspace :=
  { w with store := w.store.setEdge e (f (w.store.edge e)) }

/-- Changes a class style. -/
def updateClass (w : Workspace) (k : ClassId) (f : ClassStyle → ClassStyle) : Workspace :=
  { w with store := w.store.setClass k (f (w.store.classStyle k)) }

/-- Changes a directive. -/
def updateDirective (w : Workspace) (d : DirectiveId) (f : Directive → Directive) : Workspace :=
  { w with store := w.store.setDirective d (f (w.store.directive d)) }

/-- Changes a chart. -/
def updateChart (w : Workspace) (c : ChartId) (f : Chart → Chart) : Workspace :=
  { w with store := w.store.setChart c (f (w.store.chart c)) }

theorem updateDirective_self (w : Workspace) (d : DirectiveId) :
    (w.updateDirective d fun x => x) = w :=
  congrArg (fun directives => { w with store := { w.store with directives } })
    (Shelf.set_get_self w.store.directives d.index)

theorem chart_updateChart_self {w : Workspace} {c : ChartId} (h : c.index < w.store.charts.size)
    (f : Chart → Chart) : (w.updateChart c f).store.chart c = f (w.store.chart c) :=
  Store.chart_setChart_self h _

@[simp]
theorem size_charts_updateChart (w : Workspace) (c : ChartId) (f : Chart → Chart) :
    (w.updateChart c f).store.charts.size = w.store.charts.size :=
  Shelf.size_set _ _ _

/-! ## Connecting -/

/-- The node of an end of a connection. A text stands for the node of the chart whose identifier
is the slug of the text, or for a new one; a text without a slug stands for a new node under a
generated name. -/
def terminal (w : Workspace) (c : ChartId) : Terminal → NodeId × Workspace
  | .node n => (n, w)
  | .text text =>
    let slug := Text.slugify text
    if slug = "" then
      let (id, w) := w.nameOr .node none
      w.addNode { id, text }
    else
      match w.store.findNode? c slug with
      | some n => (n, w)
      | none => w.addNode { id := slug, text }

/-- Connects two ends by a new edge with an arrowhead at the second. The first end joins the chart
before the second is looked for. -/
def connect (w : Workspace) (c : ChartId) (a b : Terminal) (depth : Nat) : Workspace :=
  let (source, w) := w.terminal c a
  let w := w.updateChart c (·.addNodes [source])
  let (target, w) := w.terminal c b
  let (e, w) := w.addEdge { Edge.arrowTo source target with depth }
  w.updateChart c (·.addEdges w.store [e])

/-! ## Writing out -/

/-- The text of a chart, if its nesting ends. -/
def render? (w : Workspace) (c : ChartId) : Option (String × Workspace) :=
  (w.store.render? w.seen c).map fun (text, seen) => (text, { w with seen })

/-- The text of a node. -/
def renderNode (w : Workspace) (n : NodeId) : String × Workspace :=
  let (text, seen) := w.store.renderNode w.seen n
  (text, { w with seen })

/-- The text of an edge. -/
def renderEdge (w : Workspace) (e : EdgeId) : String × Workspace :=
  let (text, seen) := w.store.renderEdge w.seen e
  (text, { w with seen })

/-- A node counts as not mentioned. -/
def resetNode (w : Workspace) (n : NodeId) : Workspace :=
  { w with seen := w.seen.filter (· != n) }

end Workspace

end Flowchart
