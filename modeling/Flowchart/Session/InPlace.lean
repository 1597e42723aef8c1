import Flowchart.Session.Run

/-! # Sessions that are changed in place

A step may also be run as work on a session that is changed as one goes: input is checked, things
are looked up, made and changed, and handles are given, one after the other. If the work fails on
the way, nothing is taken back. So it is the order of the work that keeps a session from being
left half changed.
-/

namespace Flowchart

/-- Work on a session that is changed as one goes. If it fails, the session is left as it is at that
point. -/
abbrev Work := EStateM StepFailure Session

namespace Work

/-! ## Single pieces of work -/

/-- Looks something up. -/
def look {α : Type} (f : Session → Except StepFailure α) : Work α := fun s =>
  match f s with
  | .ok a => .ok a s
  | .error e => .error e s

/-- Checks something. -/
def check {α : Type} (r : Except Refusal α) : Work α :=
  look fun _ => checked r

/-- Makes something in the workspace. -/
def make {α : Type} (f : Workspace → α × Workspace) : Work α := fun s =>
  .ok (f s.workspace).1 { s with workspace := (f s.workspace).2 }

/-- Changes the workspace. -/
def change (f : Workspace → Workspace) : Work Unit :=
  make fun w => ((), f w)

/-- Gives a thing a handle. -/
def name (h : Handle) (x : Thing) : Work Unit := fun s =>
  .ok () (s.setHandle h x)

/-- Answers with something in the workspace. -/
def answer (f : Workspace → Reply) : Work Reply := fun s =>
  .ok (f s.workspace) s

/-! ## Steps about one thing -/

/-- A step about a node. -/
def node (n : NodeId) : NodeStep → Work Reply
  | .state => answer fun w => .node (w.viewNode n)
  | .text text => do
    change (·.updateNode n ({ · with text }))
    answer fun w => .node (w.viewNode n)
  | .shape name => do
    let shape ← check (parseKeyword? Shape name)
    change (·.updateNode n ({ · with shape }))
    answer fun w => .node (w.viewNode n)
  | .classStyle style => do
    let classStyle ← look (·.find? Thing.classStyle? style)
    change (·.updateNode n ({ · with classStyle }))
    answer fun w => .node (w.viewNode n)
  | .hasClass style => do
    let k ← look (·.find Thing.classStyle? style)
    answer fun w => .flag ((w.store.node n).classStyle == some k)
  | .render => do return .text (← make (·.renderNode n))
  | .reset => do
    change (·.resetNode n)
    answer fun w => .node (w.viewNode n)

/-- An end of an edge as a step gives it. -/
def endpoint (node : Handle) (arrow : Bool) (style : Option String) : Work Endpoint := do
  let node ← look (·.find Thing.node? node)
  let style ← check (parseKeyword? ArrowStyle style)
  return { node, arrow, style := style.getD .pointed }

/-- A step about an edge. -/
def edge (e : EdgeId) : EdgeStep → Work Reply
  | .state => answer fun w => .edge (w.viewEdge e)
  | .source node arrow style => do
    let source ← endpoint node arrow style
    change (·.updateEdge e ({ · with source }))
    answer fun w => .edge (w.viewEdge e)
  | .target node arrow style => do
    let target ← endpoint node arrow style
    change (·.updateEdge e ({ · with target }))
    answer fun w => .edge (w.viewEdge e)
  | .depth depth => do
    change (·.updateEdge e ({ · with depth }))
    answer fun w => .edge (w.viewEdge e)
  | .line name => do
    let line ← check (parseKeyword LineStyle name)
    change (·.updateEdge e ({ · with line }))
    answer fun w => .edge (w.viewEdge e)
  | .label label => do
    change (·.updateEdge e ({ · with label }))
    answer fun w => .edge (w.viewEdge e)
  | .link style => do
    let link ← look (·.find? Thing.link? style)
    change (·.updateEdge e ({ · with link }))
    answer fun w => .edge (w.viewEdge e)
  | .connector => answer fun w => .text (w.store.edge e).connector
  | .render => do return .text (← make (·.renderEdge e))

/-- The depth that a step gives a new edge, if it is one. -/
def checkDepth : Option Decimal.Double → Work Nat
  | some d => check (Depth.ofDouble d)
  | none => return 0

/-- A new edge, which is given its depth once it is made. -/
def newEdge (source target : NodeId) (depth : Nat) : Work EdgeId := do
  let e ← make (·.addEdge (.plain source target))
  change (·.updateEdge e ({ · with depth }))
  return e

/-- A step about a class style. -/
def classStyle (k : ClassId) : ClassStep → Work Reply
  | .set property value => do
    let p ← look fun _ => styleProperty property
    change (·.updateClass k fun x => { x with properties := x.properties.set p value })
    answer fun w => .style (w.viewClass k)
  | .get property => do
    let p ← look fun _ => styleProperty property
    answer fun w => .optionalText ((w.store.classStyle k).properties.get p)
  | .render =>
    answer fun w => .text ((w.store.classStyle k).definition (w.store.classStyle k).name)

/-- A step about the link style of a handle. -/
def link (h : Handle) (l : LinkStyle) : LinkStep → Work Reply
  | .set property value => do
    let p ← look fun _ => styleProperty property
    let l := { l with properties := l.properties.set p value }
    name h (.link l)
    return Session.viewLink l
  | .render target => return .text (l.definition target)

/-- Checks layout options one by one. -/
def checkOptions : List (String × Json.Value) → Work (List (FlowchartOption × Json.Value))
  | [] => return []
  | (key, value) :: rest => do
    let option ← check (Directive.checkOption key value)
    return option :: (← checkOptions rest)

/-- Sets layout options one by one. -/
def setOptions (d : DirectiveId) : List (FlowchartOption × Json.Value) → Work Unit
  | [] => return ()
  | (option, value) :: rest => do
    change (·.updateDirective d fun x =>
      { x with options := x.options.insert option.name value })
    setOptions d rest

/-- A step about a directive. -/
def directive (d : DirectiveId) : DirectiveStep → Work Reply
  | .theme theme => do
    change (·.updateDirective d ({ · with theme }))
    answer fun w => .directive (w.viewDirective d)
  | .font fontFamily => do
    change (·.updateDirective d ({ · with fontFamily }))
    answer fun w => .directive (w.viewDirective d)
  | .curve name => do
    let curve ← check (parseKeyword? Curve name)
    change (·.updateDirective d (·.setCurve curve))
    answer fun w => .directive (w.viewDirective d)
  | .options options => do
    setOptions d (← checkOptions options)
    answer fun w => .directive (w.viewDirective d)
  | .getOption key => do
    let option ← check (parseKeyword FlowchartOption key)
    answer fun w => .option ((w.store.directive d).options.get? option.name)
  | .themeVariables entries => do
    change (·.updateDirective d (·.setVariables entries))
    answer fun w => .directive (w.viewDirective d)
  | .getVariable key =>
    answer fun w => .optionalText ((w.store.directive d).themeVariables.get? key)

/-! ## Steps about charts -/

/-- The end of a connection that a step gives. -/
def terminal : TerminalHandle → Work Terminal
  | .node h => do return .node (← look (·.find Thing.node? h))
  | .text text => return .text text

/-- Connects two ends. -/
def connect (c : ChartId) (a b : Terminal) (depth : Nat) : Work Unit := do
  let source ← make (·.terminal c a)
  change (·.updateChart c (·.addNodes [source]))
  let target ← make (·.terminal c b)
  let e ← make (·.addEdge { Edge.arrowTo source target with depth })
  change fun w => w.updateChart c (·.addEdges w.store [e])

/-- A step that changes a chart. -/
def chart (c : ChartId) : ChartStep → Work Reply
  | .add list members => do
    let f ← look (·.addition c members list)
    change (·.updateChart c f)
    answer fun w => .chart (w.viewChart c)
  | .connect a b depth => do
    let a ← terminal a
    let b ← terminal b
    connect c a b depth
    answer fun w => .chart (w.viewChart c)
  | .direction name => do
    let direction ← check (parseKeyword Direction name)
    change (·.updateChart c ({ · with direction }))
    answer fun w => .chart (w.viewChart c)
  | .named name => do
    change (·.updateChart c ({ · with name }))
    answer fun w => .chart (w.viewChart c)
  | .style style => do
    let style ← look (·.find? Thing.classStyle? style)
    change (·.updateChart c ({ · with style }))
    answer fun w => .chart (w.viewChart c)
  | .defaultClass style => do
    let defaultClass ← look (·.find? Thing.classStyle? style)
    change (·.updateChart c ({ · with defaultClass }))
    answer fun w => .chart (w.viewChart c)
  | .defaultLink style => do
    let defaultLink ← look (·.find? Thing.link? style)
    change (·.updateChart c ({ · with defaultLink }))
    answer fun w => .chart (w.viewChart c)

/-- A step that asks about a chart; it may give a member a handle. -/
def query (c : ChartId) (q : ChartQuery) : Work Reply := fun s =>
  .ok (s.runQuery c q).2 (s.runQuery c q).1

/-- The region of the chart of a handle. -/
def region (h : Handle) (c : ChartId) : Work Region :=
  look fun s => match s.workspace.store.region? c with
    | some r => .ok r
    | none => .error (.endlessNesting h)

/-- Places the states of a machine one by one. -/
def placeStates (rules : InstalledTable) (c : ChartId) :
    Dict NodeId → List (String × MachineState) → Work (Dict NodeId)
  | nodes, [] => return nodes
  | nodes, (key, state) :: rest => do
    let nodes ← make fun w =>
      let p := Placement.addState rules c ⟨w, nodes⟩ key state
      (p.nodes, p.workspace)
    placeStates rules c nodes rest

/-- Places the transitions of a machine one by one. -/
def placeArcs (line : LineStyle) (c : ChartId) : Dict NodeId → List Arc → Work Unit
  | _, [] => return ()
  | nodes, a :: rest => do
    let nodes ← make fun w =>
      let p := Placement.addArc line c ⟨w, nodes⟩ a
      (p.nodes, p.workspace)
    placeArcs line c nodes rest

/-- The chart of a machine. The tags are checked before a name is drawn or anything is made. -/
def buildChart (m : Machine) (t : StyleTable) : Work ChartId := do
  let settings ← check (MachineSettings.ofTags m.tags)
  let rules ← make fun w =>
    let (rules, store) := t.install w.store
    (rules, { w with store })
  let c ← make (·.newChart)
  change (·.addSettings c settings)
  let nodes ← placeStates rules c {} m.states.entries
  placeArcs settings.line c nodes m.arcs
  return c

/-! ## Every step -/

/-- Runs a step in place. -/
def step : Step → Work Reply
  | .newNode as id text => do
    let n ← make (·.addNode { id, text })
    name as (.node n)
    answer fun w => .node (w.viewNode n)
  | .copyNode as source id => do
    let source ← look (·.find Thing.node? source)
    let id ← make (·.nameOr .node id)
    let n ← make fun w => w.addNode { w.store.node source with id }
    name as (.node n)
    answer fun w => .node (w.viewNode n)
  | .node h st => do node (← look (·.find Thing.node? h)) st
  | .newEdge as source target depth => do
    let source ← look (·.find Thing.node? source)
    let target ← look (·.find Thing.node? target)
    let depth ← checkDepth depth
    let e ← newEdge source target depth
    name as (.edge e)
    answer fun w => .edge (w.viewEdge e)
  | .edge h st => do edge (← look (·.find Thing.edge? h)) st
  | .newClass as className declarations => do
    let k ← make (·.addClass ⟨className, .parse declarations⟩)
    name as (.classStyle k)
    answer fun w => .style (w.viewClass k)
  | .copyClass as source className => do
    let source ← look (·.find Thing.classStyle? source)
    let className ← make (·.nameOr .classStyle className)
    let k ← make fun w => w.addClass { w.store.classStyle source with name := className }
    name as (.classStyle k)
    answer fun w => .style (w.viewClass k)
  | .classStyle h st => do classStyle (← look (·.find Thing.classStyle? h)) st
  | .newLink as linkName declarations => do
    let l : LinkStyle := ⟨linkName, .parse declarations⟩
    name as (.link l)
    return Session.viewLink l
  | .copyLink as source linkName => do
    let source ← look (·.find Thing.link? source)
    let l ← make (·.copyLink source linkName)
    name as (.link l)
    return Session.viewLink l
  | .link h st => do link h (← look (·.find Thing.link? h)) st
  | .newDirective as => do
    let d ← make (·.addDirective {})
    name as (.directive d)
    answer fun w => .directive (w.viewDirective d)
  | .directive h st => do directive (← look (·.find Thing.directive? h)) st
  | .newChart as => do
    let c ← make (·.newChart)
    name as (.chart c)
    answer fun w => .chart (w.viewChart c)
  | .copyChart as source => do
    let source ← look (·.find Thing.chart? source)
    let c ← make (·.copyChart source)
    name as (.chart c)
    answer fun w => .chart (w.viewChart c)
  | .aliasChart as source => do
    let c ← look (·.find Thing.chart? source)
    name as (.chart c)
    answer fun w => .chart (w.viewChart c)
  | .buildChart as machine styles => do
    let m ← check ((Machine.read machine).mapError .json)
    let t ← check (Session.styleTable styles)
    let c ← buildChart m t
    name as (.chart c)
    answer fun w => .chart (w.viewChart c)
  | .chart h st => do chart (← look (·.find Thing.chart? h)) st
  | .query h q => do query (← look (·.find Thing.chart? h)) q
  | .render h => do
    let c ← look (·.find Thing.chart? h)
    let r ← region h c
    return .text (← make fun w =>
      (w.store.renderRegion w.seen r, { w with seen := w.store.mentionedAfter w.seen r }))
  | .same a b => do
    let x ← look (·.find some a)
    let y ← look (·.find some b)
    return .flag (decide (x = y))
  | .newGenerator as stub => do
    name as (.generator { stub })
    return .text stub
  | .nextName h => do
    let g ← look (·.find Thing.generator? h)
    name h (.generator g.draw.2)
    return .text g.draw.1
  | .nextNames h count => do
    let g ← look (·.find Thing.generator? h)
    name h (.generator (g.take count).2)
    return .names (g.take count).1

end Work

namespace Session

/-- Runs a step in place: the session afterwards, whether the step fails or not, and the answer. -/
def stepInPlace (s : Session) (st : Step) : Session × Except StepFailure Reply :=
  match Work.step st s with
  | .ok reply s => (s, .ok reply)
  | .error f s => (s, .error f)

/-- Runs steps in place one after the other, with the answer to each. -/
def runAllInPlace : Session → List Step → Session × List (Except StepFailure Reply)
  | s, [] => (s, [])
  | s, st :: rest =>
    let (s, answer) := s.stepInPlace st
    let (s, answers) := runAllInPlace s rest
    (s, answer :: answers)

end Session

end Flowchart
