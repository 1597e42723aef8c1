import Flowchart.Proofs.Connecting
import Flowchart.Proofs.InPlace

/-!
# The names that a session draws

Which kinds of names a step draws can be told from the step and from whether it fails
(`Session.draws`), and of each kind the names are numbered in the order in which they are drawn
(`Names.namesOf_drawAll`). So the names of a run are known from its steps, and they are all
different, whatever their kinds.

The main statement is `Session.drawnNames_runAll`: it also tells which thing has come to bear each
name (`Session.Bears`). Generators that a session makes for itself are apart from these names
(`Session.step_nextNames`).
-/

namespace Flowchart

open Text (slugify)

-- Which slug a text has is never computed here.
attribute [local irreducible] Text.slugify

/-! ## What steps draw -/

/-- The kinds of the names that an end of a connection draws: a text without a slug draws one. -/
def TerminalHandle.draws : TerminalHandle → List NameKind
  | .node _ => []
  | .text t => if slugify t = "" then [.node] else []

/-- The kinds of the names that a step draws if it does not fail. -/
def Step.draws : Step → List NameKind
  | .newChart _ | .buildChart .. => [.chart]
  | .copyNode _ _ none => [.node]
  | .copyClass _ _ none => [.classStyle]
  | .copyLink _ _ none => [.link]
  | .chart _ (.connect a b _) => a.draws ++ b.draws
  | _ => []

/-- An end of a connection, which has become a node, and the names that have been drawn for it. A
node that bears a name is new. -/
inductive Workspace.BearsEnd (w after : Workspace) (n : NodeId) :
    TerminalHandle → List (NameKind × String) → Prop where
  | drawn {text name : String} (slug_eq : slugify text = "")
      (new : w.store.nodes.size ≤ n.index) (node_eq : after.store.node n = { id := name, text }) :
      BearsEnd w after n (.text text) [(.node, name)]
  | nothing {a : TerminalHandle} : BearsEnd w after n a []

namespace Session

/-- The kinds of the names that a step draws: none if it fails. -/
def draws (s : Session) (st : Step) : List NameKind :=
  match s.run st with
  | .ok _ => st.draws
  | .error _ => []

/-- The account of a run: the names that its steps ask for, each drawn from the counts that the step
meets. -/
def drawnNames : Session → List Step → List (NameKind × String)
  | _, [] => []
  | s, st :: rest =>
    (s.workspace.names.drawAll (s.draws st)).1 ++ (s.step st).1.drawnNames rest

/-- A step and the names that have been drawn for it. The thing that bears a name is new. -/
inductive Bears (s after : Session) : Step → List (NameKind × String) → Prop where
  | newChart {as : Handle} {c : ChartId} {name : String}
      (handle : after.find Thing.chart? as = .ok c)
      (new : s.workspace.store.charts.size ≤ c.index)
      (name_eq : (after.workspace.store.chart c).name = name) :
      Bears s after (.newChart as) [(.chart, name)]
  | buildChart {as : Handle} {machine : String} {styles : TableSource} {c : ChartId} {name : String}
      (handle : after.find Thing.chart? as = .ok c)
      (new : s.workspace.store.charts.size ≤ c.index)
      (name_eq : (after.workspace.store.chart c).name = name) :
      Bears s after (.buildChart as machine styles) [(.chart, name)]
  | copyNode {as source : Handle} {n : NodeId} {name : String}
      (handle : after.find Thing.node? as = .ok n) (new : s.workspace.store.nodes.size ≤ n.index)
      (id_eq : (after.workspace.store.node n).id = name) :
      Bears s after (.copyNode as source none) [(.node, name)]
  | copyClass {as source : Handle} {k : ClassId} {name : String}
      (handle : after.find Thing.classStyle? as = .ok k)
      (new : s.workspace.store.classes.size ≤ k.index)
      (name_eq : (after.workspace.store.classStyle k).name = name) :
      Bears s after (.copyClass as source none) [(.classStyle, name)]
  | copyLink {as source : Handle} {l : LinkStyle} {name : String}
      (handle : after.find Thing.link? as = .ok l) (name_eq : l.name = name) :
      Bears s after (.copyLink as source none) [(.link, name)]
  /-- The names of the first end come before those of the second. -/
  | connect {h : Handle} {a b : TerminalHandle} {depth : Nat} {c : ChartId} {e : EdgeId}
      {first second : List (NameKind × String)} (handle : s.find Thing.chart? h = .ok c)
      (mem : e ∈ (after.workspace.store.chart c).edges)
      (new : s.workspace.store.edges.size ≤ e.index)
      (source : s.workspace.BearsEnd after.workspace
        (after.workspace.store.edge e).source.node a first)
      (target : s.workspace.BearsEnd after.workspace
        (after.workspace.store.edge e).target.node b second) :
      Bears s after (.chart h (.connect a b depth)) (first ++ second)
  | nothing {st : Step} : Bears s after st []

/-- A step that has drawn names of some kinds, one after the other and no others. -/
structure Draws (s after : Session) (st : Step) (kinds : List NameKind) : Prop where
  names_eq : after.workspace.names = (s.workspace.names.drawAll kinds).2
  bears : s.Bears after st (s.workspace.names.drawAll kinds).1

theorem draws_nothing {s after : Session} {st : Step}
    (h : after.workspace.names = s.workspace.names) : s.Draws after st [] :=
  ⟨h, .nothing⟩

end Session

/-! ## Charts keep their names -/

namespace Workspace

/-- The counts of the names, and the name of a chart. -/
def naming (w : Workspace) (c : ChartId) : Names × String :=
  (w.names, (w.store.chart c).name)

theorem naming_updateChart (w : Workspace) (c : ChartId) {f : Chart → Chart}
    (h : ∀ x, (f x).name = x.name) : (w.updateChart c f).naming c = w.naming c := by
  refine Prod.ext rfl ?_
  show ((w.updateChart c f).store.chart c).name = (w.store.chart c).name
  rw [chart_updateChart]
  split
  · exact h _
  · rfl

theorem naming_addEdges (w : Workspace) (c : ChartId) (s : Store) (es : List EdgeId) :
    (w.updateChart c (·.addEdges s es)).naming c = w.naming c :=
  naming_updateChart w c fun x => by rw [Chart.addEdges_eq]

/-- A new chart bears the name that is drawn for it. -/
theorem naming_newChart (w : Workspace) :
    w.newChart.2.naming w.newChart.1 = (w.names.draw .chart).swap :=
  Prod.ext rfl (congrArg Chart.name (Store.chart_newChart_self w.store _))

theorem naming_addSettings (w : Workspace) (c : ChartId) (settings : MachineSettings) :
    (w.addSettings c settings).naming c = w.naming c := by
  let mid : Workspace := w.updateChart c fun chart =>
    { chart with direction := settings.direction.getD chart.direction
                 defaultLink := some transitionLink }
  have hmid : mid.naming c = w.naming c := naming_updateChart w c fun _ => rfl
  rw [addSettings]
  cases settings.directive? with
  | none => exact hmid
  | some d =>
    exact (naming_updateChart (mid.addDirective d).2 c
      (f := (·.addDirectives [(mid.addDirective d).1])) fun _ => rfl).trans hmid

end Workspace

namespace Placement

open Workspace

variable (rules : InstalledTable) (line : LineStyle) (c : ChartId)

theorem naming_addState (p : Placement) (key : String) (state : MachineState) :
    (p.addState rules c key state).workspace.naming c = p.workspace.naming c := by
  simp only [addState]
  split
  · rfl
  · exact naming_updateChart _ c fun _ => rfl

theorem naming_addArc (p : Placement) (a : Arc) :
    (p.addArc line c a).workspace.naming c = p.workspace.naming c := by
  have htarget : (p.targetNode a.transition.target).2.workspace.naming c
      = p.workspace.naming c := by
    simp only [targetNode]
    split <;> rfl
  exact (naming_addEdges _ c _ _).trans htarget

theorem naming_addMachine (p : Placement) (m : Machine) :
    (addMachine rules line c p m).workspace.naming c = p.workspace.naming c := by
  have hstates (es : List (String × MachineState)) (p : Placement) :
      (es.foldl (fun p e => p.addState rules c e.1 e.2) p).workspace.naming c
        = p.workspace.naming c := by
    induction es generalizing p with
    | nil => rfl
    | cons e rest ih => exact (ih _).trans (naming_addState rules c p e.1 e.2)
  have harcs (as : List Arc) (p : Placement) :
      (as.foldl (addArc line c) p).workspace.naming c = p.workspace.naming c := by
    induction as generalizing p with
    | nil => rfl
    | cons a rest ih => exact (ih _).trans (naming_addArc line c p a)
  exact (harcs _ _).trans (hstates _ _)

end Placement

namespace Workspace

/-- The chart of a machine draws one name, and bears it. -/
theorem naming_buildChart (w : Workspace) (m : Machine) (t : StyleTable) :
    Yields (w.buildChart m t) fun built =>
      built.2.naming built.1 = (w.names.draw .chart).swap := by
  let installed : Workspace := { w with store := (t.install w.store).2 }
  refine yields_bind fun settings _ => yields_ok ?_
  have hplaced := Placement.naming_addMachine (t.install w.store).1 settings.line
    installed.newChart.1 ⟨installed.newChart.2.addSettings installed.newChart.1 settings, {}⟩ m
  exact hplaced.trans ((naming_addSettings _ _ settings).trans (naming_newChart installed))

/-! ## Edges that join -/

/-- The edge of a connection joins the chart, if this is there, and leads between the nodes that
have been found. -/
theorem edge_connect {w : Workspace} {c : ChartId} (hc : c.index < w.store.charts.size)
    (t u : Terminal) (depth : Nat) :
    let first := w.enter c t
    let found := first.2.terminal c u
    let e : EdgeId := ⟨found.2.store.edges.size⟩
    let after := w.connect c t u depth
    e ∈ (after.store.chart c).edges ∧
      after.store.edge e = { Edge.arrowTo first.1 found.1 with depth } ∧
      found.2.Changes (fun _ => False) after ∧ after.names = found.2.names := by
  intro first found e after
  let added := found.2.addEdge { Edge.arrowTo first.1 found.1 with depth }
  have hafter : after = added.2.updateChart c (·.addEdges added.2.store [e]) :=
    connect_eq w c t u depth
  have hplaced : c.index < added.2.store.charts.size := by
    have hfirst : first.2.store.charts.size = w.store.charts.size := by
      rw [← charts_terminal w c t]
      exact size_charts_updateChart _ c _
    have hfound : found.2.store.charts = first.2.store.charts := charts_terminal first.2 c u
    show c.index < found.2.store.charts.size
    rw [hfound, hfirst]
    exact hc
  rw [hafter]
  refine ⟨?_, edge_addEdge_self found.2 _, ?_, rfl⟩
  · rw [chart_updateChart_self hplaced, Chart.addEdges_eq]
    show e ∈ (added.2.store.chart c).edges ++ newcomers (added.2.store.chart c).edges [e]
    rw [← withMembers_eq, mem_withMembers]
    exact .inr List.mem_cons_self
  · exact ((ChangeAt.aside (.addEdge _) rfl).changes.tail
      (.updateChart (.addEdges (joinable_addEdge _ _)))).changes

end Workspace

namespace Session

open Workspace

variable (s : Session)

/-! ## Steps about one thing -/

theorem names_runNode (n : NodeId) (st : NodeStep) :
    Yields (s.runNode n st) fun p => p.1.workspace.names = s.workspace.names := by
  cases st with
  | state | text | render | reset => exact yields_ok rfl
  | shape | classStyle | hasClass => exact yields_bind fun _ _ => yields_ok rfl

theorem names_runEdge (e : EdgeId) (st : EdgeStep) :
    Yields (s.runEdge e st) fun p => p.1.workspace.names = s.workspace.names := by
  cases st with
  | state | depth | label | connector | render => exact yields_ok rfl
  | source | target | line | link => exact yields_bind fun _ _ => yields_ok rfl

theorem names_runClass (k : ClassId) (st : ClassStep) :
    Yields (s.runClass k st) fun p => p.1.workspace.names = s.workspace.names := by
  cases st with
  | render => exact yields_ok rfl
  | set | get => exact yields_bind fun _ _ => yields_ok rfl

theorem names_runLink (h : Handle) (l : LinkStyle) (st : LinkStep) :
    Yields (s.runLink h l st) fun p => p.1.workspace.names = s.workspace.names := by
  cases st with
  | render => exact yields_ok rfl
  | set => exact yields_bind fun _ _ => yields_ok rfl

theorem names_runDirective (d : DirectiveId) (st : DirectiveStep) :
    Yields (s.runDirective d st) fun p => p.1.workspace.names = s.workspace.names := by
  intro p hp
  rw [workspace_runDirective s d st p hp]
  rfl

/-! ## Connections -/

/-- An end of a connection draws a name if it is a text without a slug, and the node under this name
is new; what comes later leaves this node as it is. -/
theorem bearsEnd_terminal {w mid after : Workspace} {c : ChartId} {a : TerminalHandle}
    {t : Terminal} (ht : s.terminal a = .ok t) (hbefore : w.Changes (fun _ => False) mid)
    (hafter : (mid.terminal c t).2.Changes (fun _ => False) after) :
    (mid.terminal c t).2.names = (mid.names.drawAll a.draws).2 ∧
      w.BearsEnd after (mid.terminal c t).1 a (mid.names.drawAll a.draws).1 := by
  cases a with
  | node h =>
    obtain ⟨n, -, hn⟩ := bind_eq_ok.mp ht
    cases hn
    exact ⟨rfl, .nothing⟩
  | text text =>
    cases ht
    by_cases hslug : slugify text = ""
    · let drawn := mid.names.draw .node
      let added := { mid with names := drawn.2 }.addNode { id := drawn.1, text }
      have hterminal : mid.terminal c (.text text) = added := by
        rw [Workspace.terminal, if_pos hslug]
        rfl
      have hdraws : (TerminalHandle.text text).draws = [.node] := if_pos hslug
      rw [hterminal] at hafter ⊢
      rw [hdraws]
      refine ⟨rfl, .drawn hslug hbefore.size_nodes_le ?_⟩
      rw [hafter.node_eq (index_addNode_lt _ _)]
      exact Store.node_newNode_self mid.store _
    · have hdraws : (TerminalHandle.text text).draws = [] := if_neg hslug
      rw [hdraws]
      refine ⟨?_, .nothing⟩
      -- The node is found, or it is new under the slug itself.
      simp only [Workspace.terminal, if_neg hslug]
      split <;> rfl

/-- The first end draws its name before the second one is looked for. -/
theorem draws_connect (hs : s.Orderly) {h : Handle} {c : ChartId} {a b : TerminalHandle}
    {depth : Nat} (hc : s.find Thing.chart? h = .ok c) :
    Yields (s.runChart c (.connect a b depth)) fun p =>
      s.Draws p.1 (.chart h (.connect a b depth)) (a.draws ++ b.draws) := by
  refine yields_bind fun t ht => yields_bind fun u hu => yields_ok ?_
  let w := s.workspace
  let first := w.enter c t
  have hplaced : c.index < w.store.charts.size := hs.given (.chart c) ⟨h, find_chart_eq_ok.mp hc⟩
  obtain ⟨hmem, hedge, hlast, hnames⟩ := edge_connect hplaced t u depth
  have hfirst : w.Changes (fun _ => False) first.2 := (changesAt_enter w c t).changes
  have hjoin : (w.terminal c t).2.Changes (fun _ => False) first.2 :=
    (ChangeAt.updateChart (.addNodes [first.1])).changes.changes
  have hlater : (w.terminal c t).2.Changes (fun _ => False) (w.connect c t u depth) :=
    (hjoin.trans (changes_terminal first.2 c u)).trans hlast
  have hfound : w.Changes (fun _ => False) (first.2.terminal c u).2 :=
    hfirst.trans (changes_terminal first.2 c u)
  obtain ⟨hdrawn, hsource⟩ := bearsEnd_terminal s ht .refl hlater
  obtain ⟨hdrawn', htarget⟩ := bearsEnd_terminal s hu hfirst hlast
  -- The second end draws from the counts that the first one has left.
  have hbetween : first.2.names = (w.names.drawAll a.draws).2 := hdrawn
  rw [hbetween] at hdrawn' htarget
  refine ⟨?_, ?_⟩
  · rw [Names.drawAll_append]
    exact hnames.trans hdrawn'
  · rw [Names.drawAll_append]
    exact .connect hc hmem hfound.size_edges_le (hedge ▸ hsource) (hedge ▸ htarget)

/-! ## Every step -/

variable {s} in
/-- A handle that has just been given names what it was given to. -/
theorem find_insert {after : Session} {α : Type} {kind? : Thing → Option α} {h : Handle} {x : Thing}
    {a : α} (hinsert : after.handles = s.handles.insert h x) (hx : kind? x = some a) :
    after.find kind? h = .ok a :=
  find_eq_ok.mpr ⟨x, hinsert ▸ Dict.get?_insert_self s.handles h x, hx⟩

theorem draws_runChart (hs : s.Orderly) {h : Handle} {c : ChartId}
    (hc : s.find Thing.chart? h = .ok c) (st : ChartStep) :
    Yields (s.runChart c st) fun p => s.Draws p.1 (.chart h st) (Step.chart h st).draws := by
  cases st with
  | connect a b depth => exact draws_connect s hs hc
  | named => exact yields_ok (draws_nothing rfl)
  | add | direction | style | defaultClass | defaultLink =>
    exact yields_bind fun _ _ => yields_ok (draws_nothing rfl)

/-- A step that does not fail draws the names that it asks for. -/
theorem draws_run (hs : s.Orderly) (st : Step) :
    Yields (s.run st) fun p => s.Draws p.1 st st.draws := by
  cases st with
  | newNode | newClass | newLink | newDirective | newGenerator =>
    exact yields_ok (draws_nothing rfl)
  | copyChart | aliasChart | nextName | nextNames =>
    exact yields_bind fun _ _ => yields_ok (draws_nothing rfl)
  | same => exact yields_bind fun _ _ => yields_bind fun _ _ => yields_ok (draws_nothing rfl)
  | copyNode as source id =>
    refine yields_bind fun n _ => yields_ok ?_
    cases id with
    | some id => exact draws_nothing rfl
    | none =>
      exact ⟨rfl, .copyNode (find_insert (s := s) rfl rfl) (Nat.le_refl _)
        (congrArg Node.id (Store.node_newNode_self _ _))⟩
  | copyClass as source name =>
    refine yields_bind fun k _ => yields_ok ?_
    cases name with
    | some name => exact draws_nothing rfl
    | none =>
      exact ⟨rfl, .copyClass (find_insert (s := s) rfl rfl) (Nat.le_refl _)
        (congrArg ClassStyle.name (Store.classStyle_newClass_self _ _))⟩
  | copyLink as source name =>
    refine yields_bind fun l _ => yields_ok ?_
    cases name with
    | some name => exact draws_nothing rfl
    | none => exact ⟨rfl, .copyLink (find_insert (s := s) rfl rfl) rfl⟩
  | newEdge as source target depth =>
    refine yields_bind fun a _ => yields_bind fun b _ => ?_
    cases depth with
    | none => exact yields_ok (draws_nothing rfl)
    | some d => exact yields_bind fun d _ => yields_ok (draws_nothing rfl)
  | node h st => exact yields_bind fun n _ p hp => draws_nothing (names_runNode s n st p hp)
  | edge h st => exact yields_bind fun e _ p hp => draws_nothing (names_runEdge s e st p hp)
  | classStyle h st => exact yields_bind fun k _ p hp => draws_nothing (names_runClass s k st p hp)
  | link h st => exact yields_bind fun l _ p hp => draws_nothing (names_runLink s h l st p hp)
  | directive h st =>
    exact yields_bind fun d _ p hp => draws_nothing (names_runDirective s d st p hp)
  | newChart as =>
    obtain ⟨hnames, hname⟩ := Prod.mk.inj (naming_newChart s.workspace)
    exact yields_ok ⟨hnames, .newChart (find_insert (s := s) rfl rfl) (Nat.le_refl _) hname⟩
  | buildChart as machine styles =>
    refine yields_bind fun m _ => yields_bind fun t _ => yields_bind fun built hbuilt => ?_
    have hchanges := yields_checked
      (@Workspace.yields_buildChart (fun _ => False) s.workspace m t) built hbuilt
    have hnaming := yields_checked (naming_buildChart s.workspace m t) built hbuilt
    obtain ⟨hnames, hname⟩ := Prod.mk.inj hnaming
    exact yields_ok ⟨hnames, .buildChart (find_insert (s := s) rfl rfl) hchanges.1 hname⟩
  | chart h st => exact yields_bind fun c hc => draws_runChart s hs hc st
  | query h query =>
    exact yields_bind fun c _ => yields_ok
      (draws_nothing (congrArg Workspace.names (workspace_runQuery s c query)))
  | render h =>
    refine yields_bind fun c _ => ?_
    split
    · next hrender =>
      obtain ⟨_, -, heq⟩ := Option.map_eq_some_iff.mp hrender
      cases heq
      exact yields_ok (draws_nothing rfl)
    · exact yields_error _

variable {s}

/-- Whatever a step does, it draws the names that it asks for, and none if it fails. -/
theorem Orderly.draws_step (hs : s.Orderly) (st : Step) :
    s.Draws (s.step st).1 st (s.draws st) := by
  rw [Session.step, draws]
  cases hrun : s.run st with
  | error f => exact draws_nothing rfl
  | ok p => exact draws_run s hs st p hrun

/-! ## Generators of a session's own -/

variable (s) in
/-- A generator that a session has made for itself numbers its names on, apart from all others. -/
theorem step_nextNames {h : Handle} {g : Generator} (hg : s.find Thing.generator? h = .ok g)
    (count : Nat) :
    s.step (.nextNames h count)
      = (s.setHandle h (.generator { g with next := g.next + count }),
        .ok (.names ((List.range' g.next count).map (generatedName g.stub)))) := by
  rw [step, run, hg]
  show (s.setHandle h (.generator (g.take count).2), Except.ok (Reply.names (g.take count).1)) = _
  rw [Generator.take_eq]

/-! ## Runs -/

/-- The names of a run are drawn one after the other from the counts that it begins with. -/
theorem Orderly.drawAll_drawnNames (hs : s.Orderly) (steps : List Step) :
    s.workspace.names.drawAll ((s.drawnNames steps).map (·.1))
      = (s.drawnNames steps, (s.runAll steps).1.workspace.names) := by
  induction steps generalizing s with
  | nil => rfl
  | cons st rest ih =>
    rw [drawnNames, List.map_append, Names.map_fst_drawAll, Names.drawAll_append,
      ← (hs.draws_step st).names_eq, ih (hs.step st)]
    rfl

theorem drawnNames_append_singleton (s : Session) (steps : List Step) (st : Step) :
    s.drawnNames (steps ++ [st]) = s.drawnNames steps
      ++ ((s.runAll steps).1.workspace.names.drawAll ((s.runAll steps).1.draws st)).1 := by
  induction steps generalizing s with
  | nil => exact List.append_nil _
  | cons first steps ih =>
    rw [List.cons_append, drawnNames, ih, drawnNames, List.append_assoc]
    rfl

/-- However a session is run, the names of each kind that are drawn are the first ones of the stub
of this kind, in order, and the names of all kinds together are all different. A step draws one name
for a new chart and for a chart of a machine, one for a copy that is given no name, and one for each
end of a connection that is a text without a slug, the first end before the second; every other step
draws none, and so does a step that fails, also if it is run in place. -/
theorem drawnNames_runAll (steps : List Step) :
    let s := (({} : Session).runAll steps).1
    let names := ({} : Session).drawnNames steps
    (∀ kind, Names.namesOf kind names
      = (List.range (s.workspace.names.drawn kind)).map (generatedName (Names.stub kind))) ∧
    (names.map (·.2)).Nodup ∧
    ∀ st, s.Draws (s.stepInPlace st).1 st (s.draws st) ∧
      ({} : Session).drawnNames (steps ++ [st])
        = names ++ (s.workspace.names.drawAll (s.draws st)).1 := by
  intro s names
  have hs : s.Orderly := orderly_empty.runAll steps
  let kinds := names.map (·.1)
  have hdrawn : ({} : Names).drawAll kinds = (names, s.workspace.names) :=
    orderly_empty.drawAll_drawnNames steps
  have hcount (kind : NameKind) : s.workspace.names.drawn kind = kinds.count kind := by
    have h := Names.drawn_drawAll {} kinds kind
    rw [hdrawn, Names.drawn_empty, Nat.zero_add] at h
    exact h
  refine ⟨fun kind => ?_, ?_, fun st => ⟨?_, drawnNames_append_singleton _ steps st⟩⟩
  · have h := Names.namesOf_drawAll {} kinds kind
    rw [hdrawn, Names.drawn_empty] at h
    rw [hcount, List.range_eq_range']
    exact h
  · have h := Names.nodup_drawAll {} kinds
    rw [hdrawn] at h
    exact h
  · rw [stepInPlace_eq_step]
    exact hs.draws_step st

/-- A chart of a machine that is not read draws no name, and both ends of a connection draw theirs
before the next chart. -/
example : ({} : Session).drawnNames
    [.newChart "g", .chart "g" (.connect (.text "!") (.text "?") 0), .buildChart "m" "[" .empty,
      .newChart "h"]
    = [(.chart, "subgraph_0"), (.node, "node_0"), (.node, "node_1"), (.chart, "subgraph_1")] := by
  decide +kernel

end Session

end Flowchart
