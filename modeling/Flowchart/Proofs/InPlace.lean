import Flowchart.Session.InPlace

/-!
# Steps that fail leave the session as it was

A session may be changed in place, where a failure takes nothing back. In each step all that can
fail comes before the first change, so a step in place does what the step does as a whole: it does
all of it or nothing (`Session.stepInPlace_eq_step`).
-/

namespace Flowchart

variable {α β : Type}

/-! ## Changing twice -/

theorem Workspace.updateDirective_updateDirective (w : Workspace) (d : DirectiveId)
    (f g : Directive → Directive) :
    (w.updateDirective d f).updateDirective d g = w.updateDirective d fun x => g (f x) :=
  congrArg (fun directives => { w with store := { w.store with directives } })
    (Shelf.set_get_set w.store.directives d.index (f (w.store.directive d)) g)

/-- An edge that is changed as soon as it is made could have been made that way. -/
theorem Workspace.updateEdge_addEdge (w : Workspace) (x : Edge) (f : Edge → Edge) :
    (w.addEdge x).2.updateEdge (w.addEdge x).1 f = (w.addEdge (f x)).2 := by
  have hedge : (w.addEdge x).2.store.edge (w.addEdge x).1 = x := edge_addEdge_self w x
  rw [updateEdge, hedge]
  exact congrArg (fun edges => { w with store := { w.store with edges } })
    (Shelf.set_push_self w.store.edges x (f x))

/-! ## Work that fails before it changes anything -/

namespace Work

/-- What comes of a step in place that does all of it or nothing. -/
def settled (s : Session) : Outcome → EStateM.Result StepFailure Session Reply
  | .ok (after, reply) => .ok reply after
  | .error f => .error f s

variable {s : Session}

/-- A look-up that fails has changed nothing. -/
theorem look_settled {f : Session → Except StepFailure α} {next : α → Work Reply}
    {o : α → Outcome} (h : ∀ a, next a s = settled s (o a)) :
    (look f >>= next) s = settled s (f s >>= o) := by
  change EStateM.bind (look f) next s = _
  rw [EStateM.bind, look]
  cases f s with
  | ok a => exact h a
  | error e => rfl

/-- A check that fails has changed nothing. -/
theorem check_settled {r : Except Refusal α} {next : α → Work Reply} {o : α → Outcome}
    (h : ∀ a, next a s = settled s (o a)) :
    (check r >>= next) s = settled s (checked r >>= o) :=
  look_settled h

theorem node_settled (n : NodeId) (st : NodeStep) : node n st s = settled s (s.runNode n st) := by
  cases st with
  | shape name => exact check_settled fun shape => rfl
  | classStyle style => exact look_settled fun k => rfl
  | hasClass style => exact look_settled fun k => rfl
  | state | text | render | reset => rfl

/-- A look-up after a look-up is one look-up. -/
theorem look_bind_look (f : Session → Except StepFailure α)
    (g : α → Session → Except StepFailure β) :
    (look f >>= fun a => look (g a)) = look fun s => f s >>= fun a => g a s := by
  funext s
  change EStateM.bind (look f) _ s = _
  rw [EStateM.bind, look, look]
  cases f s <;> rfl

theorem pure_eq_look (a : α) : (pure a : Work α) = look fun _ => .ok a :=
  rfl

/-- The node and the style of an end are only looked at. -/
theorem endpoint_eq_look (node : Handle) (arrow : Bool) (style : Option String) :
    endpoint node arrow style = look (·.endpoint node arrow style) := by
  simp only [endpoint, check, pure_eq_look, look_bind_look]
  rfl

theorem edge_settled (e : EdgeId) (st : EdgeStep) : edge e st s = settled s (s.runEdge e st) := by
  cases st with
  | source node arrow style | target node arrow style =>
    rw [edge, endpoint_eq_look]
    exact look_settled fun x => rfl
  | line name => exact check_settled fun line => rfl
  | link style => exact look_settled fun l => rfl
  | state | depth | label | connector | render => rfl

theorem classStyle_settled (k : ClassId) (st : ClassStep) :
    classStyle k st s = settled s (s.runClass k st) := by
  cases st with
  | set property value | get property => exact look_settled fun p => rfl
  | render => rfl

theorem link_settled (h : Handle) (l : LinkStyle) (st : LinkStep) :
    link h l st s = settled s (s.runLink h l st) := by
  cases st with
  | set property value => exact look_settled fun p => rfl
  | render => rfl

/-- Options that are checked one by one are only looked at. -/
theorem checkOptions_eq_check (options : List (String × Json.Value)) :
    checkOptions options = check (Directive.checkOptions options) := by
  induction options with
  | nil => rfl
  | cons o options ih =>
    obtain ⟨key, value⟩ := o
    simp only [checkOptions, ih, check, pure_eq_look, look_bind_look]
    refine congrArg look (funext fun s => ?_)
    rw [Directive.checkOptions]
    cases Directive.checkOption key value with
    | error e => rfl
    | ok x => cases Directive.checkOptions options <;> rfl

/-- Two changes are one. -/
theorem change_bind_change (f g : Workspace → Workspace) :
    (change f >>= fun _ => change g) = change fun w => g (f w) :=
  rfl

/-- Options that are set one by one are set as if all at once. -/
theorem setOptions_eq_change (d : DirectiveId) (options : List (FlowchartOption × Json.Value)) :
    setOptions d options = change (·.updateDirective d fun x =>
      { x with options := x.options.insertAll (options.map fun e => (e.1.name, e.2)) }) := by
  induction options with
  | nil => exact congrArg change (funext fun w => (w.updateDirective_self d).symm)
  | cons o options ih =>
    rw [setOptions, ih, change_bind_change]
    exact congrArg change (funext fun w => w.updateDirective_updateDirective d _ _)

theorem directive_settled (d : DirectiveId) (st : DirectiveStep) :
    directive d st s = settled s (s.runDirective d st) := by
  cases st with
  | curve name => exact check_settled fun curve => rfl
  | getOption key => exact check_settled fun option => rfl
  | options options =>
    rw [directive, checkOptions_eq_check, Session.runDirective, Directive.setOptions]
    simp only [setOptions_eq_change]
    cases Directive.checkOptions options <;> rfl
  | theme | font | themeVariables | getVariable => rfl

/-- An end of a connection is only looked up. -/
theorem terminal_eq_look (t : TerminalHandle) : terminal t = look (·.terminal t) := by
  cases t with
  | node h =>
    simp only [terminal, pure_eq_look, look_bind_look]
    rfl
  | text text => rfl

theorem chart_settled (c : ChartId) (st : ChartStep) :
    chart c st s = settled s (s.runChart c st) := by
  cases st with
  | add list members => exact look_settled fun f => rfl
  | connect a b depth =>
    rw [chart, terminal_eq_look, terminal_eq_look]
    exact look_settled fun a => look_settled fun b => rfl
  | direction name => exact check_settled fun direction => rfl
  | style style | defaultClass style => exact look_settled fun k => rfl
  | defaultLink style => exact look_settled fun l => rfl
  | named => rfl

/-- States that are placed one by one are placed as if all at once. -/
theorem placeStates_eq_make (rules : InstalledTable) (c : ChartId) (nodes : Dict NodeId)
    (states : List (String × MachineState)) :
    placeStates rules c nodes states = make fun w =>
      let p := states.foldl (fun p e => p.addState rules c e.1 e.2) (⟨w, nodes⟩ : Placement)
      (p.nodes, p.workspace) := by
  induction states generalizing nodes with
  | nil => rfl
  | cons e states ih =>
    obtain ⟨key, state⟩ := e
    simp only [placeStates, ih]
    rfl

/-- Transitions that are placed one by one are placed as if all at once. -/
theorem placeArcs_eq_change (line : LineStyle) (c : ChartId) (nodes : Dict NodeId)
    (arcs : List Arc) :
    placeArcs line c nodes arcs = change fun w =>
      (arcs.foldl (Placement.addArc line c) ⟨w, nodes⟩).workspace := by
  induction arcs generalizing nodes with
  | nil => rfl
  | cons a arcs ih =>
    simp only [placeArcs, ih]
    rfl

/-- The chart of a machine is made as a whole or not at all. -/
theorem buildChart_settled {m : Machine} {t : StyleTable} {next : ChartId → Work Reply}
    {o : ChartId × Workspace → Outcome}
    (h : ∀ c w, next c { s with workspace := w } = settled s (o (c, w))) :
    (buildChart m t >>= next) s = settled s (checked (s.workspace.buildChart m t) >>= o) := by
  change EStateM.bind (buildChart m t) next s = _
  simp only [EStateM.bind, buildChart, Workspace.buildChart, Workspace.drawMachine,
    placeStates_eq_make, placeArcs_eq_change]
  cases MachineSettings.ofTags m.tags with
  | error e => rfl
  | ok settings => exact h _ _

/-- An edge is made as if with its depth. -/
theorem newEdge_eq_make (source target : NodeId) (depth : Nat) :
    newEdge source target depth = make (·.addEdge { Edge.plain source target with depth }) := by
  funext s
  have hedge := s.workspace.updateEdge_addEdge (.plain source target) ({ · with depth })
  exact congrArg (fun w => EStateM.Result.ok _ { s with workspace := w }) hedge

/-- Each step in place does all of it or nothing. -/
theorem step_settled (st : Step) : step st s = settled s (s.run st) := by
  cases st with
  | newNode as id text => rfl
  | copyNode as source id => exact look_settled fun n => rfl
  | node h st => exact look_settled fun n => node_settled n st
  | newEdge as source target depth =>
    refine look_settled fun source => look_settled fun target => ?_
    simp only [newEdge_eq_make]
    cases depth with
    | none => rfl
    | some d => exact check_settled fun depth => rfl
  | edge h st => exact look_settled fun e => edge_settled e st
  | newClass as name declarations => rfl
  | copyClass as source name => exact look_settled fun k => rfl
  | classStyle h st => exact look_settled fun k => classStyle_settled k st
  | newLink as name declarations => rfl
  | copyLink as source name => exact look_settled fun l => rfl
  | link h st => exact look_settled fun l => link_settled h l st
  | newDirective as => rfl
  | directive h st => exact look_settled fun d => directive_settled d st
  | newChart as => rfl
  | copyChart as source => exact look_settled fun c => rfl
  | aliasChart as source => exact look_settled fun c => rfl
  | buildChart as machine styles =>
    exact check_settled fun m => check_settled fun t => buildChart_settled fun c w => rfl
  | chart h st => exact look_settled fun c => chart_settled c st
  | query h q => exact look_settled fun c => rfl
  | render h =>
    refine look_settled fun c => ?_
    change EStateM.bind (region h c) _ s = _
    simp only [EStateM.bind, region, look, Workspace.render?, Store.render?]
    cases s.workspace.store.region? c <;> rfl
  | same a b => exact look_settled fun x => look_settled fun y => rfl
  | newGenerator as stub => rfl
  | nextName h => exact look_settled fun g => rfl
  | nextNames h count => exact look_settled fun g => rfl

end Work

namespace Session

/-- A step in place does what the step does. -/
theorem stepInPlace_eq_step (s : Session) (st : Step) : s.stepInPlace st = s.step st := by
  rw [stepInPlace, step, Work.step_settled]
  cases s.run st <;> rfl

theorem runAllInPlace_eq_runAll (s : Session) (steps : List Step) :
    s.runAllInPlace steps = s.runAll steps := by
  induction steps generalizing s with
  | nil => rfl
  | cons st steps ih =>
    rw [runAllInPlace, runAll, stepInPlace_eq_step]
    simp only [ih]

/-- A step that fails in place, on whatever session it is run, leaves every node, edge, class style,
directive and chart, the generated names, the mentioned nodes and the handles as they were; and a
session that is run in place is the session that is run. -/
theorem failed_stepInPlace (steps : List Step) (st : Step) {f : StepFailure}
    (h : ((({} : Session).runAllInPlace steps).1.stepInPlace st).2 = .error f) :
    ((({} : Session).runAllInPlace steps).1.stepInPlace st).1
        = (({} : Session).runAllInPlace steps).1 ∧
      ({} : Session).runAllInPlace (steps ++ [st]) = ({} : Session).runAll (steps ++ [st]) := by
  refine ⟨?_, runAllInPlace_eq_runAll _ _⟩
  rw [stepInPlace_eq_step] at h ⊢
  rw [step] at h ⊢
  cases hrun : (({} : Session).runAllInPlace steps).1.run st with
  | ok o =>
    rw [hrun] at h
    cases h
  | error e => rfl

/-- Layout options of which only the last one is refused. -/
def badCurve : Step :=
  .directive "d" (.options [("nodeSpacing", .number (.int 40)), ("curve", .string "zigzag")])

theorem failed_stepInPlace_badCurve :
    ((({} : Session).runAllInPlace [.newDirective "d"]).1.stepInPlace badCurve).2
        = .error (.refused (.unknownName (Keyword.unknown Curve "\"zigzag\""))) ∧
      ((({} : Session).runAllInPlace [.newDirective "d"]).1.stepInPlace badCurve).1
        = (({} : Session).runAllInPlace [.newDirective "d"]).1 := by
  have hfails : ((({} : Session).runAllInPlace [.newDirective "d"]).1.stepInPlace badCurve).2
      = .error (.refused (.unknownName (Keyword.unknown Curve "\"zigzag\""))) := by
    rfl
  exact ⟨hfails, (failed_stepInPlace [.newDirective "d"] badCurve hfails).1⟩

end Session

end Flowchart
