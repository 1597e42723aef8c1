import Flowchart.Depth
import Flowchart.Session.Reply
import Flowchart.Session.Step

/-! # Running a session

A step that fails is answered with its failure and leaves the session as it was; the session goes
on after it.
-/

namespace Flowchart

/-- What a handle names: something in the workspace, or a value of the session's own. -/
inductive Thing where
  | node (node : NodeId)
  | edge (edge : EdgeId)
  | classStyle (style : ClassId)
  | link (style : LinkStyle)
  | directive (directive : DirectiveId)
  | chart (chart : ChartId)
  | generator (generator : Generator)
  deriving DecidableEq, Repr, Inhabited

namespace Thing

/-- The node that a thing is. -/
def node? : Thing → Option NodeId
  | node n => some n
  | _ => none

/-- The edge that a thing is. -/
def edge? : Thing → Option EdgeId
  | edge e => some e
  | _ => none

/-- The class style that a thing is. -/
def classStyle? : Thing → Option ClassId
  | classStyle k => some k
  | _ => none

/-- The link style that a thing is. -/
def link? : Thing → Option LinkStyle
  | link l => some l
  | _ => none

/-- The directive that a thing is. -/
def directive? : Thing → Option DirectiveId
  | directive d => some d
  | _ => none

/-- The chart that a thing is. -/
def chart? : Thing → Option ChartId
  | chart c => some c
  | _ => none

/-- The generator that a thing is. -/
def generator? : Thing → Option Generator
  | generator g => some g
  | _ => none

end Thing

/-- A workspace and the handles of the things in it. A handle names the thing that it was given
last, whatever its kind. -/
structure Session where
  workspace : Workspace := {}
  handles : Dict Thing := {}
  deriving Inhabited

/-- Why a step fails. -/
inductive StepFailure where
  | refused (reason : Refusal)
  /-- A handle that names nothing of the kind that is wanted. -/
  | unknownHandle (handle : Handle)
  /-- A property of a style that there is not. -/
  | unknownProperty (key : String)
  /-- A chart that is nested in itself. -/
  | endlessNesting (chart : Handle)

/-- The outcome of a step that does not fail: the session after it and the answer. -/
abbrev Outcome := Except StepFailure (Session × Reply)

/-- A check whose refusal fails the step. -/
def checked {α : Type} (r : Except Refusal α) : Except StepFailure α :=
  r.mapError .refused

/-- The property of a key. -/
def styleProperty (key : String) : Except StepFailure StyleProperty :=
  match StyleProperty.ofKey? key with
  | some p => .ok p
  | none => .error (.unknownProperty key)

namespace Session

variable (s : Session)

/-! ## Answers -/

/-- The session with another workspace, answered with a node. -/
def answerNode (w : Workspace) (n : NodeId) : Session × Reply :=
  ({ s with workspace := w }, .node (w.viewNode n))

/-- The session with another workspace, answered with an edge. -/
def answerEdge (w : Workspace) (e : EdgeId) : Session × Reply :=
  ({ s with workspace := w }, .edge (w.viewEdge e))

/-- The session with another workspace, answered with a class style. -/
def answerClass (w : Workspace) (k : ClassId) : Session × Reply :=
  ({ s with workspace := w }, .style (w.viewClass k))

/-- The session with another workspace, answered with a directive. -/
def answerDirective (w : Workspace) (d : DirectiveId) : Session × Reply :=
  ({ s with workspace := w }, .directive (w.viewDirective d))

/-- The session with another workspace, answered with a chart. -/
def answerChart (w : Workspace) (c : ChartId) : Session × Reply :=
  ({ s with workspace := w }, .chart (w.viewChart c))

/-- The session with another workspace, answered with a text. -/
def answerText (w : Workspace) (text : String) : Session × Reply :=
  ({ s with workspace := w }, .text text)

/-! ## Handles -/

/-- Gives a thing a handle, or changes what a handle names. -/
def setHandle (h : Handle) (x : Thing) : Session :=
  { s with handles := s.handles.insert h x }

/-- The thing of some kind that a handle names. -/
def find {α : Type} (kind? : Thing → Option α) (h : Handle) : Except StepFailure α :=
  match (s.handles.get? h).bind kind? with
  | some a => .ok a
  | none => .error (.unknownHandle h)

/-- The thing of some kind that a handle names, where there may be none. -/
def find? {α : Type} (kind? : Thing → Option α) : Option Handle → Except StepFailure (Option α)
  | none => .ok none
  | some h => (s.find kind? h).map some

/-- The things of some kind that some handles name. -/
def findAll {α : Type} (kind? : Thing → Option α) : List Handle → Except StepFailure (List α)
  | [] => .ok []
  | h :: rest => do .ok ((← s.find kind? h) :: (← findAll kind? rest))

/-! ## Steps about one thing -/

/-- A step about a node. -/
def runNode (n : NodeId) : NodeStep → Outcome
  | .state => .ok (s.answerNode s.workspace n)
  | .text text => .ok (s.answerNode (s.workspace.updateNode n ({ · with text })) n)
  | .shape name => do
    let shape ← checked (parseKeyword? Shape name)
    .ok (s.answerNode (s.workspace.updateNode n ({ · with shape })) n)
  | .classStyle style => do
    let classStyle ← s.find? Thing.classStyle? style
    .ok (s.answerNode (s.workspace.updateNode n ({ · with classStyle })) n)
  | .hasClass style => do
    let k ← s.find Thing.classStyle? style
    .ok (s, .flag ((s.workspace.store.node n).classStyle == some k))
  | .render =>
    let (text, w) := s.workspace.renderNode n
    .ok (s.answerText w text)
  | .reset => .ok (s.answerNode (s.workspace.resetNode n) n)

/-- An end of an edge as a step gives it. -/
def endpoint (node : Handle) (arrow : Bool) (style : Option String) : Except StepFailure Endpoint := do
  let node ← s.find Thing.node? node
  let style ← checked (parseKeyword? ArrowStyle style)
  .ok { node, arrow, style := style.getD .pointed }

/-- A step about an edge. -/
def runEdge (e : EdgeId) : EdgeStep → Outcome
  | .state => .ok (s.answerEdge s.workspace e)
  | .source node arrow style => do
    let source ← s.endpoint node arrow style
    .ok (s.answerEdge (s.workspace.updateEdge e ({ · with source })) e)
  | .target node arrow style => do
    let target ← s.endpoint node arrow style
    .ok (s.answerEdge (s.workspace.updateEdge e ({ · with target })) e)
  | .depth depth => .ok (s.answerEdge (s.workspace.updateEdge e ({ · with depth })) e)
  | .line name => do
    let line ← checked (parseKeyword LineStyle name)
    .ok (s.answerEdge (s.workspace.updateEdge e ({ · with line })) e)
  | .label label => .ok (s.answerEdge (s.workspace.updateEdge e ({ · with label })) e)
  | .link style => do
    let link ← s.find? Thing.link? style
    .ok (s.answerEdge (s.workspace.updateEdge e ({ · with link })) e)
  | .connector => .ok (s, .text (s.workspace.store.edge e).connector)
  | .render =>
    let (text, w) := s.workspace.renderEdge e
    .ok (s.answerText w text)

/-- A step about a class style. -/
def runClass (k : ClassId) : ClassStep → Outcome
  | .set property value => do
    let p ← styleProperty property
    let w := s.workspace.updateClass k fun x => { x with properties := x.properties.set p value }
    .ok (s.answerClass w k)
  | .get property => do
    let p ← styleProperty property
    .ok (s, .optionalText ((s.workspace.store.classStyle k).properties.get p))
  | .render =>
    let x := s.workspace.store.classStyle k
    .ok (s, .text (x.definition x.name))

/-- A link style as an answer. -/
def viewLink (l : LinkStyle) : Reply :=
  .style ⟨l.name, l.properties.declarations⟩

/-- A step about the link style of a handle. -/
def runLink (h : Handle) (l : LinkStyle) : LinkStep → Outcome
  | .set property value => do
    let p ← styleProperty property
    let l := { l with properties := l.properties.set p value }
    .ok (s.setHandle h (.link l), viewLink l)
  | .render target => .ok (s, .text (l.definition target))

/-- A step about a directive. -/
def runDirective (d : DirectiveId) : DirectiveStep → Outcome
  | .theme theme => .ok (s.answerDirective (s.workspace.updateDirective d ({ · with theme })) d)
  | .font fontFamily =>
    .ok (s.answerDirective (s.workspace.updateDirective d ({ · with fontFamily })) d)
  | .curve name => do
    let curve ← checked (parseKeyword? Curve name)
    .ok (s.answerDirective (s.workspace.updateDirective d (·.setCurve curve)) d)
  | .options options => do
    let x ← checked ((s.workspace.store.directive d).setOptions options)
    .ok (s.answerDirective (s.workspace.updateDirective d fun _ => x) d)
  | .getOption key => do
    let option ← checked (parseKeyword FlowchartOption key)
    .ok (s, .option ((s.workspace.store.directive d).options.get? option.name))
  | .themeVariables entries =>
    .ok (s.answerDirective (s.workspace.updateDirective d (·.setVariables entries)) d)
  | .getVariable key =>
    .ok (s, .optionalText ((s.workspace.store.directive d).themeVariables.get? key))

/-! ## Steps about charts -/

/-- A change that adds things to a chart that stands at a place. -/
def addition (c : ChartId) (members : List Handle) :
    Membership → Except StepFailure (Chart → Chart)
  | .node => do
    let ns ← s.findAll Thing.node? members
    .ok (·.addNodes ns)
  | .edge => do
    let es ← s.findAll Thing.edge? members
    .ok (·.addEdges s.workspace.store es)
  | .classStyle => do
    let ks ← s.findAll Thing.classStyle? members
    .ok (·.addClasses ks)
  | .directive => do
    let ds ← s.findAll Thing.directive? members
    .ok (·.addDirectives ds)
  | .subgraph => do
    let cs ← s.findAll Thing.chart? members
    .ok (·.addSubgraphs s.workspace.store c cs)

/-- The end of a connection that a step gives. -/
def terminal : TerminalHandle → Except StepFailure Terminal
  | .node h => do .ok (.node (← s.find Thing.node? h))
  | .text text => .ok (.text text)

/-- A step that changes a chart. -/
def runChart (c : ChartId) : ChartStep → Outcome
  | .add list members => do
    let f ← s.addition c members list
    .ok (s.answerChart (s.workspace.updateChart c f) c)
  | .connect a b depth => do
    let a ← s.terminal a
    let b ← s.terminal b
    .ok (s.answerChart (s.workspace.connect c a b depth) c)
  | .direction name => do
    let direction ← checked (parseKeyword Direction name)
    .ok (s.answerChart (s.workspace.updateChart c ({ · with direction })) c)
  | .named name => .ok (s.answerChart (s.workspace.updateChart c ({ · with name })) c)
  | .style style => do
    let style ← s.find? Thing.classStyle? style
    .ok (s.answerChart (s.workspace.updateChart c ({ · with style })) c)
  | .defaultClass style => do
    let defaultClass ← s.find? Thing.classStyle? style
    .ok (s.answerChart (s.workspace.updateChart c ({ · with defaultClass })) c)
  | .defaultLink style => do
    let defaultLink ← s.find? Thing.link? style
    .ok (s.answerChart (s.workspace.updateChart c ({ · with defaultLink })) c)

/-- The member of a chart at a place of one of its lists, with a handle. -/
def member (c : Chart) (index : Nat) (as : Handle) : Membership → Session × Reply
  | .node =>
    match c.nodes[index]? with
    | some n => (s.setHandle as (.node n), .node (s.workspace.viewNode n))
    | none => (s, .absent)
  | .edge =>
    match c.edges[index]? with
    | some e => (s.setHandle as (.edge e), .edge (s.workspace.viewEdge e))
    | none => (s, .absent)
  | .classStyle =>
    match c.classes[index]? with
    | some k => (s.setHandle as (.classStyle k), .style (s.workspace.viewClass k))
    | none => (s, .absent)
  | .directive =>
    match c.directives[index]? with
    | some d => (s.setHandle as (.directive d), .directive (s.workspace.viewDirective d))
    | none => (s, .absent)
  | .subgraph =>
    match c.subgraphs[index]? with
    | some c => (s.setHandle as (.chart c), .chart (s.workspace.viewChart c))
    | none => (s, .absent)

/-- A step that asks about a chart. -/
def runQuery (c : ChartId) : ChartQuery → Session × Reply
  | .state => s.answerChart s.workspace c
  | .findNode id as =>
    match s.workspace.store.findNode? c id with
    | some n =>
      (match as with
        | some h => s.setHandle h (.node n)
        | none => s, .node (s.workspace.viewNode n))
    | none => (s, .absent)
  | .member list index as => s.member (s.workspace.store.chart c) index as list

/-- The style table of a source. -/
def styleTable : TableSource → Except Refusal StyleTable
  | .builtIn => .ok .builtIn
  | .empty => .ok .empty
  | .text text => (StyleTable.read text).mapError .json

/-! ## Every step -/

/-- Runs a step that may fail. -/
def run : Step → Outcome
  | .newNode as id text =>
    let (n, w) := s.workspace.addNode { id, text }
    .ok ((s.setHandle as (.node n)).answerNode w n)
  | .copyNode as source id => do
    let (n, w) := s.workspace.copyNode (← s.find Thing.node? source) id
    .ok ((s.setHandle as (.node n)).answerNode w n)
  | .node h step => do s.runNode (← s.find Thing.node? h) step
  | .newEdge as source target depth => do
    let plain := Edge.plain (← s.find Thing.node? source) (← s.find Thing.node? target)
    let depth ← match depth with
      | some d => checked (Depth.ofDouble d)
      | none => .ok 0
    let (e, w) := s.workspace.addEdge { plain with depth }
    .ok ((s.setHandle as (.edge e)).answerEdge w e)
  | .edge h step => do s.runEdge (← s.find Thing.edge? h) step
  | .newClass as name declarations =>
    let (k, w) := s.workspace.addClass ⟨name, .parse declarations⟩
    .ok ((s.setHandle as (.classStyle k)).answerClass w k)
  | .copyClass as source name => do
    let (k, w) := s.workspace.copyClass (← s.find Thing.classStyle? source) name
    .ok ((s.setHandle as (.classStyle k)).answerClass w k)
  | .classStyle h step => do s.runClass (← s.find Thing.classStyle? h) step
  | .newLink as name declarations =>
    let l : LinkStyle := ⟨name, .parse declarations⟩
    .ok (s.setHandle as (.link l), viewLink l)
  | .copyLink as source name => do
    let (l, w) := s.workspace.copyLink (← s.find Thing.link? source) name
    .ok ({ s.setHandle as (.link l) with workspace := w }, viewLink l)
  | .link h step => do s.runLink h (← s.find Thing.link? h) step
  | .newDirective as =>
    let (d, w) := s.workspace.addDirective {}
    .ok ((s.setHandle as (.directive d)).answerDirective w d)
  | .directive h step => do s.runDirective (← s.find Thing.directive? h) step
  | .newChart as =>
    let (c, w) := s.workspace.newChart
    .ok ((s.setHandle as (.chart c)).answerChart w c)
  | .copyChart as source => do
    let (c, w) := s.workspace.copyChart (← s.find Thing.chart? source)
    .ok ((s.setHandle as (.chart c)).answerChart w c)
  | .aliasChart as source => do
    let c ← s.find Thing.chart? source
    .ok ((s.setHandle as (.chart c)).answerChart s.workspace c)
  | .buildChart as machine styles => do
    let m ← checked ((Machine.read machine).mapError .json)
    let t ← checked (styleTable styles)
    let (c, w) ← checked (s.workspace.buildChart m t)
    .ok ((s.setHandle as (.chart c)).answerChart w c)
  | .chart h step => do s.runChart (← s.find Thing.chart? h) step
  | .query h query => do .ok (s.runQuery (← s.find Thing.chart? h) query)
  | .render h => do
    match s.workspace.render? (← s.find Thing.chart? h) with
    | some (text, w) => .ok (s.answerText w text)
    | none => .error (.endlessNesting h)
  | .same a b => do .ok (s, .flag (decide ((← s.find some a) = (← s.find some b))))
  | .newGenerator as stub => .ok (s.setHandle as (.generator { stub }), .text stub)
  | .nextName h => do
    let (name, g) := (← s.find Thing.generator? h).draw
    .ok (s.setHandle h (.generator g), .text name)
  | .nextNames h count => do
    let (names, g) := (← s.find Thing.generator? h).take count
    .ok (s.setHandle h (.generator g), .names names)

/-- Runs a step: a step that fails leaves the session as it was. -/
def step (st : Step) : Session × Except StepFailure Reply :=
  match s.run st with
  | .ok (after, reply) => (after, .ok reply)
  | .error f => (s, .error f)

/-- Runs steps one after the other, with the answer to each. -/
def runAll : Session → List Step → Session × List (Except StepFailure Reply)
  | s, [] => (s, [])
  | s, st :: rest =>
    let (s, answer) := s.step st
    let (s, answers) := runAll s rest
    (s, answer :: answers)

end Session

end Flowchart
