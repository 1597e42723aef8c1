import Flowchart.Session.Run
import Mathlib.Logic.Relation

/-!
# What a step does to the workspace

A step either changes one thing that there is, or it makes some changes in a row that leave every
node, edge, class style and directive as it was (`Workspace.Change`): new things, and members and
settings of one chart (`Chart.Change`). Or it changes which nodes count as mentioned, where a text
is written and where a node is reset. The main statement is `Session.yields_run`, that every step
that does not fail is one of these moves (`Workspace.Move`), within what the step asks for
(`Session.asks`).
-/

namespace Flowchart

/-! ## Results that are not refused -/

/-- Every value that comes without a refusal has a property. -/
def Yields {ε α : Type} (x : Except ε α) (P : α → Prop) : Prop :=
  ∀ a, x = .ok a → P a

section Yields

variable {ε α β : Type} {P : β → Prop}

theorem yields_ok {b : β} (h : P b) : Yields (.ok b : Except ε β) P := by
  intro a ha
  cases ha
  exact h

theorem yields_error (e : ε) : Yields (.error e : Except ε β) P := by
  intro a ha
  cases ha

theorem yields_bind {x : Except ε α} {f : α → Except ε β} (h : ∀ a, x = .ok a → Yields (f a) P) :
    Yields (x >>= f) P := by
  cases x with
  | error e => exact yields_error e
  | ok a => exact h a rfl

theorem yields_checked {α : Type} {P : α → Prop} {r : Except Refusal α} (h : Yields r P) :
    Yields (checked r) P := by
  cases r with
  | error e => exact yields_error _
  | ok a => exact yields_ok (h a rfl)

end Yields

/-! ## Changes of charts -/

/-- The things that may join a chart: those that are given to it, and edges that there are. -/
def Store.Joinable (s : Store) (given : Thing → Prop) : Thing → Prop
  | .edge e => given (.edge e) ∨ e.index < s.edges.size
  | x => given x

/-- A change of the chart that stands at a place of a store. -/
inductive Chart.Change (given : Thing → Prop) (s : Store) (self : ChartId) :
    (Chart → Chart) → Prop where
  | addNodes (ns : List NodeId) : Chart.Change given s self (·.addNodes ns)
  | addEdges {es : List EdgeId} (h : ∀ e ∈ es, s.Joinable given (.edge e)) :
      Chart.Change given s self (·.addEdges s es)
  | addClasses (ks : List ClassId) : Chart.Change given s self (·.addClasses ks)
  | addDirectives (ds : List DirectiveId) : Chart.Change given s self (·.addDirectives ds)
  | addSubgraphs {cs : List ChartId} (h : ∀ d ∈ cs, s.Joinable given (.chart d)) :
      Chart.Change given s self (·.addSubgraphs s self cs)
  /-- Other settings and the same members. -/
  | settings {f : Chart → Chart}
      (same : ∀ c, (f c).nodes = c.nodes ∧ (f c).edges = c.edges ∧ (f c).classes = c.classes ∧
        (f c).directives = c.directives ∧ (f c).subgraphs = c.subgraphs) :
      Chart.Change given s self f
  /-- One change after the other. -/
  | comp {f g : Chart → Chart} (first : Chart.Change given s self f)
      (second : Chart.Change given s self g) : Chart.Change given s self fun c => g (f c)

/-! ## Changes of the workspace -/

namespace Workspace

/-- One change of a workspace, which leaves the nodes, edges, class styles and directives that there
are as they are, and what counts as mentioned. -/
inductive Change (given : Thing → Prop) (w : Workspace) : Workspace → Prop where
  | nameOr (kind : NameKind) (name : Option String) : Change given w (w.nameOr kind name).2
  | addNode (x : Node) : Change given w (w.addNode x).2
  | addEdge (x : Edge) : Change given w (w.addEdge x).2
  | addClass (x : ClassStyle) : Change given w (w.addClass x).2
  /-- A directive is new as it is given out, or as the tags of a machine set it. -/
  | addDirective {x : Directive}
      (h : x = {} ∨ ∃ settings : MachineSettings, settings.directive? = some x) :
      Change given w (w.addDirective x).2
  | addChart (name : String) : Change given w (w.addChart { name }).2
  | copyChart (c : ChartId) : Change given w (w.copyChart c).2
  | updateChart (c : ChartId) {f : Chart → Chart} (h : Chart.Change given w.store c f) :
      Change given w (w.updateChart c f)

/-- Some changes one after the other. -/
def Changes (given : Thing → Prop) : Workspace → Workspace → Prop :=
  Relation.ReflTransGen (Change given)

/-- A change that copies no chart and changes no chart but one. -/
inductive ChangeAt (given : Thing → Prop) (c : ChartId) (w : Workspace) : Workspace → Prop where
  /-- A change of other things. -/
  | aside {after : Workspace} (h : Change given w after)
      (charts_eq : after.store.charts = w.store.charts) : ChangeAt given c w after
  | addChart (name : String) : ChangeAt given c w (w.addChart { name }).2
  | updateChart {f : Chart → Chart} (h : Chart.Change given w.store c f) :
      ChangeAt given c w (w.updateChart c f)

/-- Some changes of one chart, one after the other. -/
def ChangesAt (given : Thing → Prop) (c : ChartId) : Workspace → Workspace → Prop :=
  Relation.ReflTransGen (ChangeAt given c)

end Workspace

/-- What a step asks for. -/
structure Scope where
  /-- The things that are to join a chart. -/
  given : Thing → Prop
  /-- The chart that is to change. -/
  works : ChartId → Prop
  /-- The chart that is to be copied. -/
  copies : ChartId → Prop
  /-- Whether a node or an edge is to be written by itself. -/
  alone : Prop
  /-- What is to be made of a directive. -/
  turns : DirectiveId → (Directive → Directive) → Prop

namespace Workspace

/-- What a step does to a workspace, given what it asks for. -/
inductive Move (scope : Scope) (w : Workspace) : Workspace → Prop where
  /-- Changes of the chart that the step asks for, or of a new one. -/
  | changes {c : ChartId} {after : Workspace}
      (hc : scope.works c ∨ w.store.charts.size ≤ c.index)
      (h : w.ChangesAt scope.given c after) : Move scope w after
  | copyChart {c : ChartId} (h : scope.copies c) : Move scope w (w.copyChart c).2
  | updateNode (n : NodeId) (f : Node → Node) : Move scope w (w.updateNode n f)
  | updateEdge (e : EdgeId) (f : Edge → Edge) : Move scope w (w.updateEdge e f)
  | updateClass (k : ClassId) (f : ClassStyle → ClassStyle) : Move scope w (w.updateClass k f)
  | updateDirective {d : DirectiveId} {f : Directive → Directive} (h : scope.turns d f) :
      Move scope w (w.updateDirective d f)
  | render {c : ChartId} {text : String} {after : Workspace}
      (h : w.render? c = some (text, after)) : Move scope w after
  | renderNode (h : scope.alone) (n : NodeId) : Move scope w (w.renderNode n).2
  | renderEdge (h : scope.alone) (e : EdgeId) : Move scope w (w.renderEdge e).2
  | resetNode (n : NodeId) : Move scope w (w.resetNode n)

variable {given : Thing → Prop} {scope : Scope} {w after : Workspace} {c : ChartId}

theorem ChangeAt.change (h : w.ChangeAt given c after) : w.Change given after := by
  cases h with
  | aside h => exact h
  | addChart name => exact .addChart name
  | updateChart h => exact .updateChart c h

theorem ChangesAt.changes (h : w.ChangesAt given c after) : w.Changes given after :=
  Relation.ReflTransGen.mono (fun _ _ h => h.change) w after h

theorem ChangesAt.refl (w : Workspace) : w.ChangesAt given c w :=
  Relation.ReflTransGen.refl

theorem ChangeAt.changes (h : w.ChangeAt given c after) : w.ChangesAt given c after :=
  Relation.ReflTransGen.single h

theorem ChangesAt.tail {mid : Workspace} (h : w.ChangesAt given c mid)
    (h' : mid.ChangeAt given c after) : w.ChangesAt given c after :=
  Relation.ReflTransGen.tail h h'

theorem ChangesAt.trans {mid : Workspace} (h : w.ChangesAt given c mid)
    (h' : mid.ChangesAt given c after) : w.ChangesAt given c after :=
  Relation.ReflTransGen.trans h h'

/-- Changes of no chart are changes of a new one. -/
theorem Move.of_charts_eq (h : w.Change scope.given after)
    (hcharts : after.store.charts = w.store.charts) : Move scope w after :=
  .changes (c := ⟨w.store.charts.size⟩) (.inr (Nat.le_refl _)) (ChangeAt.aside h hcharts).changes

theorem Move.same (w : Workspace) : Move scope w w :=
  .changes (c := ⟨w.store.charts.size⟩) (.inr (Nat.le_refl _)) (.refl w)

theorem index_addEdge_lt (w : Workspace) (x : Edge) :
    (w.addEdge x).1.index < (w.addEdge x).2.store.edges.size :=
  (Shelf.size_push _ _).symm ▸ Nat.lt_succ_self _

/-- An edge that has just been added may join a chart. -/
theorem joinable_addEdge (w : Workspace) (x : Edge) :
    ∀ e ∈ [(w.addEdge x).1], (w.addEdge x).2.store.Joinable given (.edge e) := by
  intro e he
  rw [List.mem_singleton.mp he]
  exact .inr (index_addEdge_lt w x)

/-! ### Connecting -/

theorem changesAt_terminal (w : Workspace) (c : ChartId) (t : Terminal) :
    w.ChangesAt given c (w.terminal c t).2 := by
  cases t with
  | node n => exact .refl w
  | text text =>
    simp only [terminal]
    split
    · exact (ChangeAt.aside (.nameOr .node none) rfl).changes.tail (.aside (.addNode _) rfl)
    · split
      · exact .refl w
      · exact (ChangeAt.aside (.addNode _) rfl).changes

/-- Finding an end puts nothing into a chart, whatever it is given. -/
theorem changes_terminal (w : Workspace) (c : ChartId) (t : Terminal) :
    w.Changes (fun _ => False) (w.terminal c t).2 :=
  (changesAt_terminal w c t).changes

theorem changesAt_connect (w : Workspace) (c : ChartId) (a b : Terminal) (depth : Nat) :
    w.ChangesAt given c (w.connect c a b depth) := by
  -- The source joins the chart before the target is looked for.
  have hsource : w.ChangesAt given c (w.terminal c a).2 := changesAt_terminal w c a
  have hjoined := hsource.tail (.updateChart (.addNodes [(w.terminal c a).1]))
  have htarget := hjoined.trans (changesAt_terminal _ c b)
  exact (htarget.tail (.aside (.addEdge _) rfl)).tail
    (.updateChart (.addEdges (joinable_addEdge _ _)))

/-! ### The chart of a machine -/

theorem changesAt_installRules (w : Workspace) (rules : List (String × StyleRule)) :
    w.ChangesAt given c { w with store := (installRules w.store rules).2 } := by
  induction rules generalizing w with
  | nil => exact .refl w
  | cons e rest ih =>
    have hfirst : w.ChangeAt given c (w.addClass e.2.style).2 := .aside (.addClass _) rfl
    exact hfirst.changes.trans (ih (w.addClass e.2.style).2)

/-- The rules of a table add nothing but class styles. -/
theorem installRules_eq (s : Store) (rules : List (String × StyleRule)) :
    (installRules s rules).2 = { s with classes := (installRules s rules).2.classes } := by
  induction rules generalizing s with
  | nil => rfl
  | cons e rest ih => exact ih (s.newClass e.2.style).2

theorem changesAt_newChart (w : Workspace) : w.ChangesAt given c w.newChart.2 :=
  (ChangeAt.aside (.nameOr .chart none) rfl).changes.tail (.addChart _)

theorem changesAt_addSettings (w : Workspace) (c : ChartId) (settings : MachineSettings) :
    w.ChangesAt given c (w.addSettings c settings) := by
  have hset : w.ChangeAt given c (w.updateChart c fun chart =>
      { chart with direction := settings.direction.getD chart.direction
                   defaultLink := some transitionLink }) :=
    .updateChart (.settings fun _ => ⟨rfl, rfl, rfl, rfl, rfl⟩)
  rw [addSettings]
  cases hd : settings.directive? with
  | none => exact hset.changes
  | some d =>
    exact (hset.changes.tail (.aside (.addDirective (.inr ⟨settings, hd⟩)) rfl)).tail
      (.updateChart (.addDirectives [_]))

end Workspace

namespace Placement

open Workspace

variable {given : Thing → Prop} (rules : InstalledTable) (line : LineStyle) (c : ChartId)

theorem changesAt_addState (p : Placement) (key : String) (state : MachineState) :
    p.workspace.ChangesAt given c (p.addState rules c key state).workspace := by
  simp only [addState]
  split
  · exact .refl _
  · exact (ChangeAt.aside (.addNode _) rfl).changes.tail
      (.updateChart (.comp (.addClasses _) (.addNodes _)))

theorem changesAt_targetNode (p : Placement) (target : String) :
    p.workspace.ChangesAt given c (p.targetNode target).2.workspace := by
  simp only [targetNode]
  split
  · exact .refl _
  · exact (ChangeAt.aside (.addNode _) rfl).changes

theorem changesAt_addArc (p : Placement) (a : Arc) :
    p.workspace.ChangesAt given c (p.addArc line c a).workspace := by
  have htarget : p.workspace.ChangesAt given c
      (p.targetNode a.transition.target).2.workspace :=
    changesAt_targetNode c p a.transition.target
  exact (htarget.tail (.aside (.addEdge _) rfl)).tail
    (.updateChart (.addEdges (joinable_addEdge _ _)))

theorem changesAt_addStates (es : List (String × MachineState)) (p : Placement) :
    p.workspace.ChangesAt given c
      (es.foldl (fun p e => p.addState rules c e.1 e.2) p).workspace := by
  induction es generalizing p with
  | nil => exact .refl _
  | cons e rest ih => exact (changesAt_addState rules c p e.1 e.2).trans (ih _)

theorem changesAt_addArcs (as : List Arc) (p : Placement) :
    p.workspace.ChangesAt given c (as.foldl (addArc line c) p).workspace := by
  induction as generalizing p with
  | nil => exact .refl _
  | cons a rest ih => exact (changesAt_addArc line c p a).trans (ih _)

end Placement

namespace Workspace

/-- A machine is drawn in a new chart, which is the only one that changes. -/
theorem yields_drawMachine (w : Workspace) (m : Machine) (rules : InstalledTable) :
    Yields (w.drawMachine m rules) fun drawn =>
      drawn.1 = w.newChart.1 ∧ w.newChart.2.ChangesAt given drawn.1 drawn.2 := by
  refine yields_bind fun settings _ => yields_ok ⟨rfl, ?_⟩
  have hset : w.newChart.2.ChangesAt given w.newChart.1
      (w.newChart.2.addSettings w.newChart.1 settings) :=
    changesAt_addSettings _ w.newChart.1 settings
  have hstates := hset.trans
    (Placement.changesAt_addStates rules w.newChart.1 m.states.entries ⟨_, {}⟩)
  exact hstates.trans (Placement.changesAt_addArcs settings.line _ m.arcs _)

theorem yields_buildChart (w : Workspace) (m : Machine) (t : StyleTable) :
    Yields (w.buildChart m t) fun built =>
      w.store.charts.size ≤ built.1.index ∧ w.ChangesAt given built.1 built.2 := by
  intro built hbuilt
  obtain ⟨hnew, hdrawn⟩ := yields_drawMachine _ m _ built hbuilt
  have hinstall : w.ChangesAt given built.1 { w with store := (t.install w.store).2 } :=
    changesAt_installRules w t.entries
  refine ⟨?_, (hinstall.trans (changesAt_newChart _)).trans hdrawn⟩
  rw [hnew]
  -- The class styles of the table are no charts.
  have hcharts := congrArg Store.charts (installRules_eq w.store t.entries)
  exact Nat.le_of_eq (congrArg Shelf.size hcharts.symm)

end Workspace

/-! ## Steps -/

/-- A step that writes a node or an edge by itself, outside the text of a chart. -/
def Step.WritesAlone : Step → Prop
  | .node _ st => st = .render
  | .edge _ st => st = .render
  | _ => False

/-- What a step makes of a directive: a step that is refused leaves it as it is. -/
def Directive.step (x : Directive) : DirectiveStep → Directive
  | .theme theme => { x with theme }
  | .font fontFamily => { x with fontFamily }
  | .curve name =>
    match parseKeyword? Curve name with
    | .ok curve => x.setCurve curve
    | .error _ => x
  | .options options =>
    match x.setOptions options with
    | .ok y => y
    | .error _ => x
  | .themeVariables entries => x.setVariables entries
  | .getOption _ | .getVariable _ => x

theorem checked_eq_ok {α : Type} {r : Except Refusal α} {a : α} :
    checked r = .ok a ↔ r = .ok a := by
  cases r with
  | error e => exact ⟨nofun, nofun⟩
  | ok b =>
    show (Except.ok b : Except StepFailure α) = .ok a ↔ _
    rw [Except.ok.injEq, Except.ok.injEq]

theorem Thing.node?_eq_some {x : Thing} {n : NodeId} : x.node? = some n ↔ x = .node n := by
  cases x <;> simp [Thing.node?]

theorem Thing.edge?_eq_some {x : Thing} {e : EdgeId} : x.edge? = some e ↔ x = .edge e := by
  cases x <;> simp [Thing.edge?]

theorem Thing.chart?_eq_some {x : Thing} {c : ChartId} : x.chart? = some c ↔ x = .chart c := by
  cases x <;> simp [Thing.chart?]

namespace Session

open Workspace

variable (s : Session) {scope : Scope}

/-- A thing that a handle names. -/
def Given (x : Thing) : Prop :=
  ∃ h, s.handles.get? h = some x

/-- What a step asks for in a session. -/
def asks (st : Step) : Scope where
  given x := ∃ h list members, st = .chart h (.add list members) ∧
    ∃ m ∈ members, s.handles.get? m = some x
  works c := ∃ h x, st = .chart h x ∧ s.find Thing.chart? h = .ok c
  copies c := ∃ as source, st = .copyChart as source ∧ s.find Thing.chart? source = .ok c
  alone := st.WritesAlone
  turns d f := ∃ h x, st = .directive h x ∧ s.find Thing.directive? h = .ok d ∧ f = (·.step x)

variable {s} in
theorem find_eq_ok {α : Type} {kind? : Thing → Option α} {h : Handle} {a : α} :
    s.find kind? h = .ok a ↔ ∃ x, s.handles.get? h = some x ∧ kind? x = some a := by
  rw [find, ← Option.bind_eq_some_iff]
  cases (s.handles.get? h).bind kind? <;> simp

variable {s} in
theorem find_chart_eq_ok {h : Handle} {c : ChartId} :
    s.find Thing.chart? h = .ok c ↔ s.handles.get? h = some (.chart c) := by
  simp only [find_eq_ok, Thing.chart?_eq_some, exists_eq_right]

theorem yields_findAll {α : Type} (kind? : Thing → Option α) (members : List Handle) :
    Yields (s.findAll kind? members) fun xs => ∀ x ∈ xs, ∃ m ∈ members, s.find kind? m = .ok x := by
  induction members with
  | nil => exact yields_ok fun x hx => absurd hx List.not_mem_nil
  | cons m rest ih =>
    refine yields_bind fun a ha => yields_bind fun as has => yields_ok fun x hx => ?_
    rcases List.mem_cons.mp hx with rfl | hx
    · exact ⟨m, List.mem_cons_self, ha⟩
    · obtain ⟨m', hm', hx⟩ := ih as has x hx
      exact ⟨m', List.mem_cons_of_mem _ hm', hx⟩

theorem yields_updateNode (n : NodeId) (f : Node → Node) :
    Yields (.ok (s.answerNode (s.workspace.updateNode n f) n) : Outcome) fun p =>
      Move scope s.workspace p.1.workspace :=
  yields_ok (.updateNode n f)

theorem yields_updateEdge (e : EdgeId) (f : Edge → Edge) :
    Yields (.ok (s.answerEdge (s.workspace.updateEdge e f) e) : Outcome) fun p =>
      Move scope s.workspace p.1.workspace :=
  yields_ok (.updateEdge e f)

theorem yields_updateClass (k : ClassId) (f : ClassStyle → ClassStyle) :
    Yields (.ok (s.answerClass (s.workspace.updateClass k f) k) : Outcome) fun p =>
      Move scope s.workspace p.1.workspace :=
  yields_ok (.updateClass k f)

theorem yields_updateChart {c : ChartId} {f : Chart → Chart} (hc : scope.works c)
    (h : Chart.Change scope.given s.workspace.store c f) :
    Yields (.ok (s.answerChart (s.workspace.updateChart c f) c) : Outcome) fun p =>
      Move scope s.workspace p.1.workspace :=
  yields_ok (.changes (.inl hc) (ChangeAt.updateChart h).changes)

theorem yields_runNode (n : NodeId) (st : NodeStep) (halone : st = .render → scope.alone) :
    Yields (s.runNode n st) fun p => Move scope s.workspace p.1.workspace := by
  cases st with
  | state => exact yields_ok (.same _)
  | text text => exact yields_updateNode s n _
  | shape name => exact yields_bind fun _ _ => yields_updateNode s n _
  | classStyle style => exact yields_bind fun _ _ => yields_updateNode s n _
  | hasClass style => exact yields_bind fun _ _ => yields_ok (.same _)
  | render => exact yields_ok (.renderNode (halone rfl) n)
  | reset => exact yields_ok (.resetNode n)

theorem yields_runEdge (e : EdgeId) (st : EdgeStep) (halone : st = .render → scope.alone) :
    Yields (s.runEdge e st) fun p => Move scope s.workspace p.1.workspace := by
  cases st with
  | state => exact yields_ok (.same _)
  | source node arrow style => exact yields_bind fun _ _ => yields_updateEdge s e _
  | target node arrow style => exact yields_bind fun _ _ => yields_updateEdge s e _
  | depth depth => exact yields_updateEdge s e _
  | line name => exact yields_bind fun _ _ => yields_updateEdge s e _
  | label label => exact yields_updateEdge s e _
  | link style => exact yields_bind fun _ _ => yields_updateEdge s e _
  | connector => exact yields_ok (.same _)
  | render => exact yields_ok (.renderEdge (halone rfl) e)

theorem yields_runClass (k : ClassId) (st : ClassStep) :
    Yields (s.runClass k st) fun p => Move scope s.workspace p.1.workspace := by
  cases st with
  | set property value => exact yields_bind fun _ _ => yields_updateClass s k _
  | get property => exact yields_bind fun _ _ => yields_ok (.same _)
  | render => exact yields_ok (.same _)

theorem yields_runLink (h : Handle) (l : LinkStyle) (st : LinkStep) :
    Yields (s.runLink h l st) fun p => Move scope s.workspace p.1.workspace := by
  cases st with
  | set property value => exact yields_bind fun _ _ => yields_ok (.same _)
  | render target => exact yields_ok (.same _)

/-- A step about a directive that does not fail changes the directive and nothing else. -/
theorem workspace_runDirective (d : DirectiveId) (st : DirectiveStep) :
    Yields (s.runDirective d st) fun p =>
      p.1.workspace = s.workspace.updateDirective d (·.step st) := by
  cases st with
  | theme theme => exact yields_ok rfl
  | font fontFamily => exact yields_ok rfl
  | curve name =>
    refine yields_bind fun curve hcurve => yields_ok ?_
    simp only [answerDirective, Directive.step, checked_eq_ok.mp hcurve]
  | options options =>
    refine yields_bind fun x hx => yields_ok ?_
    -- The options have been set on the directive as it is in the store.
    simp only [answerDirective, updateDirective, Directive.step, checked_eq_ok.mp hx]
  | getOption key => exact yields_bind fun _ _ => yields_ok (updateDirective_self _ d).symm
  | themeVariables entries => exact yields_ok rfl
  | getVariable key => exact yields_ok (updateDirective_self _ d).symm

theorem yields_runDirective (d : DirectiveId) (st : DirectiveStep)
    (hturn : scope.turns d (·.step st)) :
    Yields (s.runDirective d st) fun p => Move scope s.workspace p.1.workspace := by
  intro p hp
  rw [workspace_runDirective s d st p hp]
  exact .updateDirective hturn

theorem yields_addition (c : ChartId) (members : List Handle) (list : Membership)
    (hgiven : ∀ m ∈ members, ∀ x, s.handles.get? m = some x → scope.given x) :
    Yields (s.addition c members list) (Chart.Change scope.given s.workspace.store c) := by
  cases list with
  | node => exact yields_bind fun ns _ => yields_ok (.addNodes ns)
  | edge =>
    refine yields_bind fun es hes => yields_ok (.addEdges fun e he => .inl ?_)
    obtain ⟨m, hm, hfind⟩ := yields_findAll s _ members es hes e he
    obtain ⟨x, hx, hkind⟩ := find_eq_ok.mp hfind
    exact hgiven m hm _ (Thing.edge?_eq_some.mp hkind ▸ hx)
  | classStyle => exact yields_bind fun ks _ => yields_ok (.addClasses ks)
  | directive => exact yields_bind fun ds _ => yields_ok (.addDirectives ds)
  | subgraph =>
    refine yields_bind fun cs hcs => yields_ok (.addSubgraphs fun d hd => ?_)
    obtain ⟨m, hm, hfind⟩ := yields_findAll s _ members cs hcs d hd
    exact hgiven m hm _ (find_chart_eq_ok.mp hfind)

theorem yields_runChart (c : ChartId) (st : ChartStep) (hc : scope.works c)
    (hgiven : ∀ list members, st = .add list members →
      ∀ m ∈ members, ∀ x, s.handles.get? m = some x → scope.given x) :
    Yields (s.runChart c st) fun p => Move scope s.workspace p.1.workspace := by
  cases st with
  | add list members =>
    have hadd := yields_addition s c members list (hgiven list members rfl)
    exact yields_bind fun f hf => yields_updateChart s hc (hadd f hf)
  | connect a b depth =>
    exact yields_bind fun a _ => yields_bind fun b _ =>
      yields_ok (.changes (.inl hc) (changesAt_connect s.workspace c a b depth))
  | direction name =>
    exact yields_bind fun _ _ =>
      yields_updateChart s hc (.settings fun _ => ⟨rfl, rfl, rfl, rfl, rfl⟩)
  | named name =>
    exact yields_updateChart s hc (.settings fun _ => ⟨rfl, rfl, rfl, rfl, rfl⟩)
  | style style =>
    exact yields_bind fun _ _ =>
      yields_updateChart s hc (.settings fun _ => ⟨rfl, rfl, rfl, rfl, rfl⟩)
  | defaultClass style =>
    exact yields_bind fun _ _ =>
      yields_updateChart s hc (.settings fun _ => ⟨rfl, rfl, rfl, rfl, rfl⟩)
  | defaultLink style =>
    exact yields_bind fun _ _ =>
      yields_updateChart s hc (.settings fun _ => ⟨rfl, rfl, rfl, rfl, rfl⟩)

theorem workspace_runQuery (c : ChartId) (query : ChartQuery) :
    (s.runQuery c query).1.workspace = s.workspace := by
  cases query with
  | state => rfl
  | findNode id as =>
    simp only [runQuery]
    split
    · cases as <;> rfl
    · rfl
  | member list index as => cases list <;> simp only [runQuery, member] <;> split <;> rfl

/-- A step that does not fail makes one move, within what it asks for. -/
theorem yields_run (st : Step) :
    Yields (s.run st) fun p => Move (s.asks st) s.workspace p.1.workspace := by
  cases st with
  | newNode as id text => exact yields_ok (.of_charts_eq (.addNode _) rfl)
  | copyNode as source id =>
    exact yields_bind fun n _ => yields_ok (.changes (c := ⟨_⟩) (.inr (Nat.le_refl _))
      ((ChangeAt.aside (.nameOr .node id) rfl).changes.tail (.aside (.addNode _) rfl)))
  | node h st => exact yields_bind fun n _ => yields_runNode s n st id
  | newEdge as source target depth =>
    refine yields_bind fun a _ => yields_bind fun b _ => ?_
    -- A depth is checked only if the step gives one.
    cases depth with
    | none => exact yields_ok (.of_charts_eq (.addEdge _) rfl)
    | some d => exact yields_bind fun d _ => yields_ok (.of_charts_eq (.addEdge _) rfl)
  | edge h st => exact yields_bind fun e _ => yields_runEdge s e st id
  | newClass as name declarations => exact yields_ok (.of_charts_eq (.addClass _) rfl)
  | copyClass as source name =>
    exact yields_bind fun k _ => yields_ok (.changes (c := ⟨_⟩) (.inr (Nat.le_refl _))
      ((ChangeAt.aside (.nameOr .classStyle name) rfl).changes.tail (.aside (.addClass _) rfl)))
  | classStyle h st => exact yields_bind fun k _ => yields_runClass s k st
  | newLink as name declarations => exact yields_ok (.same _)
  | copyLink as source name =>
    exact yields_bind fun l _ => yields_ok (Move.of_charts_eq (.nameOr .link name) rfl)
  | link h st => exact yields_bind fun l _ => yields_runLink s h l st
  | newDirective as => exact yields_ok (.of_charts_eq (.addDirective (.inl rfl)) rfl)
  | directive h st =>
    exact yields_bind fun d hd => yields_runDirective s d st ⟨h, st, rfl, hd, rfl⟩
  | newChart as =>
    exact yields_ok (.changes (c := ⟨_⟩) (.inr (Nat.le_refl _)) (changesAt_newChart _))
  | copyChart as source =>
    exact yields_bind fun c hc => yields_ok (.copyChart ⟨as, source, rfl, hc⟩)
  | aliasChart as source => exact yields_bind fun c _ => yields_ok (.same _)
  | buildChart as machine styles =>
    refine yields_bind fun m _ => yields_bind fun t _ => yields_bind fun built hbuilt => ?_
    obtain ⟨hnew, hchanges⟩ := yields_checked (yields_buildChart s.workspace m t) built hbuilt
    exact yields_ok (.changes (.inr hnew) hchanges)
  | chart h st =>
    refine yields_bind fun c hc => yields_runChart s c st ⟨h, st, rfl, hc⟩ ?_
    exact fun list members hst m hm x hx => ⟨h, list, members, congrArg _ hst, m, hm, hx⟩
  | query h query =>
    refine yields_bind fun c _ => yields_ok ?_
    rw [workspace_runQuery]
    exact .same _
  | render h =>
    refine yields_bind fun c _ => ?_
    split
    · next hrender => exact yields_ok (.render hrender)
    · exact yields_error _
  | same a b => exact yields_bind fun _ _ => yields_bind fun _ _ => yields_ok (.same _)
  | newGenerator as stub => exact yields_ok (.same _)
  | nextName h => exact yields_bind fun g _ => yields_ok (.same _)
  | nextNames h count => exact yields_bind fun g _ => yields_ok (.same _)

/-- Whatever a step does, it makes one move, within what it asks for. -/
theorem move_step (st : Step) : Move (s.asks st) s.workspace (s.step st).1.workspace := by
  rw [step]
  cases hrun : s.run st with
  | error f => exact .same _
  | ok p => exact yields_run s st p hrun

end Session

end Flowchart
