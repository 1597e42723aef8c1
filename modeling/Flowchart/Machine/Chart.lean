import Flowchart.Machine.Settings
import Flowchart.Store.Workspace
import Flowchart.StyleTable.Decode

/-! # The chart of a machine

Each state becomes a node and each transition an edge. States whose names have the same identifier
share the node of the first of them. A transition to a state that is not declared leads to a node
without text, one for each name.
-/

namespace Flowchart

/-- The rules of a style table, with references to their class styles. -/
abbrev InstalledTable := Dict (ClassId × Option Shape)

/-- Adds the class styles of some rules to a store. -/
def installRules (s : Store) :
    List (String × StyleRule) → List (String × (ClassId × Option Shape)) × Store
  | [] => ([], s)
  | (tag, r) :: rest =>
    let (k, s) := s.newClass r.style
    let (entries, s) := installRules s rest
    ((tag, (k, r.shape)) :: entries, s)

/-- Adds the class styles of a table to a store. -/
def StyleTable.install (t : StyleTable) (s : Store) : InstalledTable × Store :=
  let (entries, s) := installRules s t.entries
  (⟨entries⟩, s)

/-- The directive of some settings, if they set anything that a directive holds. -/
def MachineSettings.directive? (m : MachineSettings) : Option Directive :=
  if m.curve.isNone && m.themeVariables.isEmpty && m.theme.isNone then none
  else some (({ theme := m.theme : Directive }.setCurve m.curve).setVariables m.themeVariables)

/-- The link style of all transitions. -/
def transitionLink : LinkStyle :=
  { name := "transition", properties := { stroke := some "#fff" } }

/-- A workspace with the nodes of the states that have been placed, by their names. -/
structure Placement where
  workspace : Workspace
  nodes : Dict NodeId := {}

namespace Placement

/-- Places a state: on the node that has its identifier, or on a new one, labelled with its
description or else its name and styled by its rule. -/
def addState (rules : InstalledTable) (c : ChartId) (p : Placement) (key : String)
    (state : MachineState) : Placement :=
  let id := Text.stateNodeId key
  match p.workspace.store.findNode? c id with
  | some n => { p with nodes := p.nodes.insert key n }
  | none =>
    let rule := rules.forState? state
    let (n, w) := p.workspace.addNode
      { id, text := state.description.getD key, shape := rule.bind (·.2)
        classStyle := rule.map (·.1) }
    ⟨w.updateChart c fun chart => (chart.addClasses (rule.map (·.1)).toList).addNodes [n],
      p.nodes.insert key n⟩

/-- The node that a transition leads to: that of the state of this name, or a new one. -/
def targetNode (p : Placement) (target : String) : NodeId × Placement :=
  match p.nodes.get? target with
  | some n => (n, p)
  | none =>
    let (n, w) := p.workspace.addNode { id := Text.stateNodeId target }
    (n, ⟨w, p.nodes.insert target n⟩)

/-- Places a transition. -/
def addArc (line : LineStyle) (c : ChartId) (p : Placement) (a : Arc) : Placement :=
  let source := (p.nodes.get? a.state).getD default
  let (target, p) := p.targetNode a.transition.target
  let (e, w) := p.workspace.addEdge
    { Edge.arrowTo source target with line, label := a.transition.description }
  { p with workspace := w.updateChart c (·.addEdges w.store [e]) }

/-- Places the states of a machine, then its transitions. -/
def addMachine (rules : InstalledTable) (line : LineStyle) (c : ChartId) (p : Placement)
    (m : Machine) : Placement :=
  m.arcs.foldl (addArc line c)
    (m.states.entries.foldl (fun p e => p.addState rules c e.1 e.2) p)

end Placement

namespace Workspace

/-- Adds the directive of some settings to a chart. -/
def addSettings (w : Workspace) (c : ChartId) (settings : MachineSettings) : Workspace :=
  let w := w.updateChart c fun chart =>
    { chart with direction := settings.direction.getD chart.direction
                 defaultLink := some transitionLink }
  match settings.directive? with
  | some d =>
    let (d, w) := w.addDirective d
    w.updateChart c (·.addDirectives [d])
  | none => w

/-- Adds the chart of a machine that is styled by rules whose class styles are in the store.
Nothing is added if a tag of the machine is refused. -/
def drawMachine (w : Workspace) (m : Machine) (rules : InstalledTable) :
    Except Refusal (ChartId × Workspace) := do
  let settings ← MachineSettings.ofTags m.tags
  let (c, w) := w.newChart
  let w := w.addSettings c settings
  .ok (c, (Placement.addMachine rules settings.line c ⟨w, {}⟩ m).workspace)

/-- Adds the class styles of a table and the chart of a machine that is styled by it. Nothing is
added if a tag of the machine is refused. -/
def buildChart (w : Workspace) (m : Machine) (t : StyleTable) :
    Except Refusal (ChartId × Workspace) :=
  let (rules, store) := t.install w.store
  { w with store }.drawMachine m rules

end Workspace

/-! ## The text of a machine -/

/-- The title of a chart, as front matter. -/
def titleBlock (id : String) : String :=
  "---\ntitle: " ++ id ++ "\n---"

/-- The text of a machine that is styled by rules whose class styles are in the store: its title
and its chart, which has no subgraphs. -/
def Workspace.renderMachine (w : Workspace) (m : Machine) (rules : InstalledTable) :
    Except Refusal String := do
  let (c, w) ← w.drawMachine m rules
  .ok (titleBlock m.id ++ "\n" ++ w.store.renderRegion w.seen (.mk c []))

/-- The text of a machine that is styled by a table. -/
def Machine.render (m : Machine) (t : StyleTable) : Except Refusal String :=
  let (rules, store) := t.install {}
  ({ store } : Workspace).renderMachine m rules

/-- The style table of a text; without one, the built-in table. -/
def StyleTable.readOr : Option String → Except Refusal StyleTable
  | none => .ok .builtIn
  | some text => (StyleTable.read text).mapError .json

/-- The text of a machine that is itself given as text, with a style table given as text. The
machine is read before the table. -/
def renderMachineText (machine : String) (styles : Option String) : Except Refusal String := do
  let m ← (Machine.read machine).mapError Refusal.json
  let t ← StyleTable.readOr styles
  m.render t

end Flowchart
