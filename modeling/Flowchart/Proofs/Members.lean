import Flowchart.Proofs.Joining
import Mathlib.Logic.Function.Basic

/-!
# What charts hold in a session

However a session is run, no chart holds anything twice, nor itself, and what a chart holds it keeps
in its place (`Session.chart_runAll`). A copy of a chart takes over the subgraphs of the original,
so it must not be found among them: a handle never names a chart before there is one
(`Session.Orderly`), which is kept by every step. The same holds of edges.
-/

namespace Flowchart

namespace Session

variable (s : Session)

/-! ## What handles name -/

/-- The handles of a session name nothing but what is named in the one before and what there is. -/
def Follows (after : Session) : Prop :=
  ∀ x, after.Given x → s.Given x ∨ x.Placed after.workspace.store

variable {s}

theorem follows_of_handles_eq {after : Session} (h : after.handles = s.handles) :
    s.Follows after := by
  intro x ⟨h', hget⟩
  exact .inl ⟨h', h ▸ hget⟩

/-- A handle is given or changes what it names. -/
theorem follows_of_insert {after : Session} {h : Handle} {x : Thing}
    (hinsert : after.handles = s.handles.insert h x)
    (hx : s.Given x ∨ x.Placed after.workspace.store) : s.Follows after := by
  intro y ⟨h', hget⟩
  rw [hinsert] at hget
  by_cases hh : h' = h
  · rw [hh, Dict.get?_insert_self] at hget
    exact Option.some.inj hget ▸ hx
  · rw [Dict.get?_insert_of_ne _ _ hh] at hget
    exact .inl ⟨h', hget⟩

/-! ### Steps about one thing -/

variable (s)

theorem yields_follows_runNode (n : NodeId) (st : NodeStep) :
    Yields (s.runNode n st) fun p => s.Follows p.1 := by
  cases st with
  | state | text | render | reset => exact yields_ok (follows_of_handles_eq rfl)
  | shape | classStyle | hasClass =>
    exact yields_bind fun _ _ => yields_ok (follows_of_handles_eq rfl)

theorem yields_follows_runEdge (e : EdgeId) (st : EdgeStep) :
    Yields (s.runEdge e st) fun p => s.Follows p.1 := by
  cases st with
  | state | depth | label | connector | render => exact yields_ok (follows_of_handles_eq rfl)
  | source | target | line | link =>
    exact yields_bind fun _ _ => yields_ok (follows_of_handles_eq rfl)

theorem yields_follows_runClass (k : ClassId) (st : ClassStep) :
    Yields (s.runClass k st) fun p => s.Follows p.1 := by
  cases st with
  | render => exact yields_ok (follows_of_handles_eq rfl)
  | set | get => exact yields_bind fun _ _ => yields_ok (follows_of_handles_eq rfl)

theorem yields_follows_runLink (h : Handle) (l : LinkStyle) (st : LinkStep) :
    Yields (s.runLink h l st) fun p => s.Follows p.1 := by
  cases st with
  | render => exact yields_ok (follows_of_handles_eq rfl)
  | set => exact yields_bind fun _ _ => yields_ok (follows_of_insert rfl (.inr trivial))

theorem yields_follows_runDirective (d : DirectiveId) (st : DirectiveStep) :
    Yields (s.runDirective d st) fun p => s.Follows p.1 := by
  cases st with
  | theme | font | themeVariables | getVariable => exact yields_ok (follows_of_handles_eq rfl)
  | curve | options | getOption =>
    exact yields_bind fun _ _ => yields_ok (follows_of_handles_eq rfl)

theorem yields_follows_runChart (c : ChartId) (st : ChartStep) :
    Yields (s.runChart c st) fun p => s.Follows p.1 := by
  cases st with
  | named => exact yields_ok (follows_of_handles_eq rfl)
  | add | direction | style | defaultClass | defaultLink =>
    exact yields_bind fun _ _ => yields_ok (follows_of_handles_eq rfl)
  | connect =>
    exact yields_bind fun _ _ => yields_bind fun _ _ => yields_ok (follows_of_handles_eq rfl)

/-- The member at a place of a chart gets a handle. -/
theorem follows_runQuery (hs : s.workspace.store.Orderly) (c : ChartId) (query : ChartQuery) :
    s.Follows (s.runQuery c query).1 := by
  cases query with
  | state => exact follows_of_handles_eq rfl
  | findNode id as =>
    rw [runQuery]
    split
    · cases as with
      | none => exact follows_of_handles_eq rfl
      | some h => exact follows_of_insert rfl (.inr trivial)
    · exact follows_of_handles_eq rfl
  | member list index as =>
    cases list with
    | edge =>
      simp only [runQuery, member]
      split
      · next e he => exact follows_of_insert rfl (.inr (hs.edges c e (List.mem_of_getElem? he)))
      · exact follows_of_handles_eq rfl
    | subgraph =>
      simp only [runQuery, member]
      split
      · next d hd => exact follows_of_insert rfl (.inr (hs.placed c d (List.mem_of_getElem? hd)))
      · exact follows_of_handles_eq rfl
    | _ =>
      simp only [runQuery, member]
      split
      · exact follows_of_insert rfl (.inr trivial)
      · exact follows_of_handles_eq rfl

/-! ### Every step -/

/-- After a step that does not fail, handles name what they named before it or what there is. -/
theorem yields_follows_run (hs : s.workspace.store.Orderly) (st : Step) :
    Yields (s.run st) fun p => s.Follows p.1 := by
  cases st with
  | newNode | newClass | newLink | newDirective | newGenerator =>
    exact yields_ok (follows_of_insert rfl (.inr trivial))
  | copyNode | copyClass | copyLink | nextName | nextNames =>
    exact yields_bind fun _ _ => yields_ok (follows_of_insert rfl (.inr trivial))
  | newEdge as source target depth =>
    have hplaced (x : Edge) : (Thing.edge (s.workspace.addEdge x).1).Placed
        (s.workspace.addEdge x).2.store := s.workspace.index_addEdge_lt x
    refine yields_bind fun a _ => yields_bind fun b _ => ?_
    cases depth with
    | none => exact yields_ok (follows_of_insert rfl (.inr (hplaced _)))
    | some d => exact yields_bind fun d _ => yields_ok (follows_of_insert rfl (.inr (hplaced _)))
  | node h st => exact yields_bind fun n _ => yields_follows_runNode s n st
  | edge h st => exact yields_bind fun e _ => yields_follows_runEdge s e st
  | classStyle h st => exact yields_bind fun k _ => yields_follows_runClass s k st
  | link h st => exact yields_bind fun l _ => yields_follows_runLink s h l st
  | directive h st => exact yields_bind fun d _ => yields_follows_runDirective s d st
  | newChart as =>
    exact yields_ok (follows_of_insert rfl (.inr (Workspace.index_newChart_lt _)))
  | copyChart as source =>
    exact yields_bind fun d _ =>
      yields_ok (follows_of_insert rfl (.inr (Workspace.index_copyChart_lt _ d)))
  | aliasChart as source =>
    -- The chart need not be new: the other handle names it.
    exact yields_bind fun d hd =>
      yields_ok (follows_of_insert rfl (.inl ⟨source, find_chart_eq_ok.mp hd⟩))
  | buildChart as machine styles =>
    refine yields_bind fun m _ => yields_bind fun t _ => yields_bind fun built hbuilt => ?_
    have hplaced := yields_checked (Workspace.yields_index_buildChart _ m t) built hbuilt
    exact yields_ok (follows_of_insert rfl (.inr hplaced))
  | chart h st => exact yields_bind fun c _ => yields_follows_runChart s c st
  | query h query => exact yields_bind fun c _ => yields_ok (follows_runQuery s hs c query)
  | render h =>
    refine yields_bind fun c _ => ?_
    split
    · exact yields_ok (follows_of_handles_eq rfl)
    · exact yields_error _
  | same a b =>
    exact yields_bind fun _ _ => yields_bind fun _ _ => yields_ok (follows_of_handles_eq rfl)

/-! ## Sessions in order -/

/-- A session whose store is in order and whose handles name edges and charts that there are. -/
structure Orderly : Prop where
  store : s.workspace.store.Orderly
  given : ∀ x, s.Given x → x.Placed s.workspace.store

variable {s}

theorem orderly_empty : ({} : Session).Orderly where
  store := Store.orderly_empty
  given _ := fun ⟨_, hget⟩ => nomatch hget

/-- What a step asks to join a chart has a handle. -/
theorem given_of_asks {st : Step} {x : Thing} (h : (s.asks st).given x) : s.Given x := by
  obtain ⟨-, -, -, -, m, -, hget⟩ := h
  exact ⟨m, hget⟩

/-- Only a step that adds to a chart asks for something to join one. -/
theorem exists_add_of_asks {st : Step} {x : Thing} (h : (s.asks st).given x) :
    ∃ h list members, st = .chart h (.add list members) := by
  obtain ⟨h, list, members, heq, -⟩ := h
  exact ⟨h, list, members, heq⟩

theorem Orderly.step (hs : s.Orderly) (st : Step) : (s.step st).1.Orderly := by
  rw [Session.step]
  cases hrun : s.run st with
  | error f => exact hs
  | ok p =>
    have hmove : s.workspace.Move (s.asks st) p.1.workspace := yields_run s st p hrun
    have hfollows : s.Follows p.1 := yields_follows_run s hs.store st p hrun
    refine ⟨hmove.orderly hs.store fun x hx => hs.given x (given_of_asks hx), fun x hx => ?_⟩
    exact (hfollows x hx).elim (fun h => hmove.placed (hs.given x h)) id

theorem Orderly.runAll (hs : s.Orderly) (steps : List Step) : (s.runAll steps).1.Orderly := by
  induction steps generalizing s with
  | nil => exact hs
  | cons st steps ih => exact ih (hs.step st)

theorem runAll_append (s : Session) (steps rest : List Step) :
    (s.runAll (steps ++ rest)).1 = ((s.runAll steps).1.runAll rest).1 := by
  induction steps generalizing s with
  | nil => rfl
  | cons st steps ih => exact ih (s.step st).1

/-! ## What steps let join -/

/-- Whatever a step does, the lists of a chart stay as they are but for their ends. -/
theorem grows_step (s : Session) (st : Step) (c : ChartId) :
    (s.workspace.store.chart c).Grows ((s.step st).1.workspace.store.chart c) :=
  (s.move_step st).grows c

/-- Adding to a chart fails, and then changes nothing, or finds the chart and what to add. -/
theorem step_add_cases (s : Session) (h : Handle) (list : Membership) (members : List Handle) :
    (s.step (.chart h (.add list members))).1 = s ∨
      ∃ c f, s.find Thing.chart? h = .ok c ∧ s.addition c members list = .ok f := by
  cases hc : s.find Thing.chart? h with
  | error e =>
    have hrun : s.run (.chart h (.add list members)) = .error e := by
      rw [run, hc]
      rfl
    rw [Session.step, hrun]
    exact .inl rfl
  | ok c =>
    cases hf : s.addition c members list with
    | error e =>
      have hrun : s.run (.chart h (.add list members)) = .error e := by
        rw [run, hc]
        show s.runChart c (.add list members) = _
        rw [runChart, hf]
        rfl
      rw [Session.step, hrun]
      exact .inl rfl
    | ok f => exact .inr ⟨c, f, rfl, hf⟩

theorem workspace_step_add {s : Session} {h : Handle} {c : ChartId} {members : List Handle}
    {list : Membership} {f : Chart → Chart} (hc : s.find Thing.chart? h = .ok c)
    (hf : s.addition c members list = .ok f) :
    (s.step (.chart h (.add list members))).1.workspace = s.workspace.updateChart c f := by
  have hrun : s.run (.chart h (.add list members))
      = .ok (s.answerChart (s.workspace.updateChart c f) c) := by
    rw [run, hc]
    change s.runChart c (.add list members) = _
    rw [runChart, hf]
    rfl
  rw [Session.step, hrun]
  rfl

/-- Adding to a chart changes that chart, whatever handle names it, and no other one. -/
theorem Orderly.chart_step_add (hs : s.Orderly) {h : Handle} {c : ChartId} {members : List Handle}
    {list : Membership} {f : Chart → Chart} (hc : s.find Thing.chart? h = .ok c)
    (hf : s.addition c members list = .ok f) :
    (s.step (.chart h (.add list members))).1.workspace.store.chart
      = Function.update s.workspace.store.chart c (f (s.workspace.store.chart c)) := by
  -- What a handle names is there, so there is a chart to change.
  have hlt : c.index < s.workspace.store.charts.size :=
    hs.given (.chart c) ⟨h, find_chart_eq_ok.mp hc⟩
  rw [workspace_step_add hc hf]
  funext d
  rw [Function.update_apply]
  exact (Workspace.chart_updateChart s.workspace c f d).trans (by simp only [hlt, and_true])

/-- However a session is run, no chart holds anything twice, nor itself, and each step leaves what a
chart holds in its place and adds to it at the end. Of the things that a step is to add to a chart,
those are added that the chart does not hold yet, each once and in the order of first appearance.
An edge that is added brings along the nodes of its ends that are not there yet, its source first,
and a subgraph its nodes and its class styles; no chart is added to itself. -/
theorem chart_runAll (steps : List Step) :
    let s := (({} : Session).runAll steps).1
    let chart := s.workspace.store.chart
    (∀ c, (chart c).Distinct c) ∧
    (∀ st c, (chart c).Grows ((s.step st).1.workspace.store.chart c)) ∧
    ∀ h c members, s.find Thing.chart? h = .ok c →
      let after := fun list => (s.step (.chart h (.add list members))).1.workspace.store.chart
      (∀ ns, s.findAll Thing.node? members = .ok ns →
        after .node = Function.update chart c
          { chart c with nodes := (chart c).nodes ++ newcomers (chart c).nodes ns }) ∧
      (∀ ks, s.findAll Thing.classStyle? members = .ok ks →
        after .classStyle = Function.update chart c
          { chart c with classes := (chart c).classes ++ newcomers (chart c).classes ks }) ∧
      (∀ ds, s.findAll Thing.directive? members = .ok ds →
        after .directive = Function.update chart c
          { chart c with
            directives := (chart c).directives ++ newcomers (chart c).directives ds }) ∧
      (∀ es, s.findAll Thing.edge? members = .ok es →
        let added := newcomers (chart c).edges es
        after .edge = Function.update chart c
          { chart c with
            nodes := (chart c).nodes ++ newcomers (chart c).nodes
              (added.flatMap fun e => (s.workspace.store.edge e).nodes)
            edges := (chart c).edges ++ added }) ∧
      (∀ cs, s.findAll Thing.chart? members = .ok cs →
        let added := newcomers (chart c).subgraphs (cs.filter (· ≠ c))
        after .subgraph = Function.update chart c
          { chart c with
            nodes := (chart c).nodes ++ newcomers (chart c).nodes
              (added.flatMap fun d => (chart d).nodes)
            classes := (chart c).classes ++ newcomers (chart c).classes
              (added.flatMap fun d => (chart d).classes)
            subgraphs := (chart c).subgraphs ++ added }) := by
  intro s chart
  have hs : s.Orderly := orderly_empty.runAll steps
  refine ⟨hs.store.distinct, grows_step s, fun h c members hc => ⟨?_, ?_, ?_, ?_, ?_⟩⟩
  · intro ns hns
    have hadd : s.addition c members .node = .ok (·.addNodes ns) := by
      rw [addition, hns]
      rfl
    exact (hs.chart_step_add hc hadd).trans (congrArg _ (Chart.addNodes_eq _ ns))
  · intro ks hks
    have hadd : s.addition c members .classStyle = .ok (·.addClasses ks) := by
      rw [addition, hks]
      rfl
    exact (hs.chart_step_add hc hadd).trans (congrArg _ (Chart.addClasses_eq _ ks))
  · intro ds hds
    have hadd : s.addition c members .directive = .ok (·.addDirectives ds) := by
      rw [addition, hds]
      rfl
    exact (hs.chart_step_add hc hadd).trans (congrArg _ (Chart.addDirectives_eq _ ds))
  · intro es hes
    have hadd : s.addition c members .edge = .ok (·.addEdges s.workspace.store es) := by
      rw [addition, hes]
      rfl
    exact (hs.chart_step_add hc hadd).trans (congrArg _ (Chart.addEdges_eq _ _ es))
  · intro cs hcs
    have hadd : s.addition c members .subgraph
        = .ok (·.addSubgraphs s.workspace.store c cs) := by
      rw [addition, hcs]
      rfl
    exact (hs.chart_step_add hc hadd).trans (congrArg _ (Chart.addSubgraphs_eq _ _ _ cs))

/-- Two charts, of which one holds a node of the other. -/
def twoCharts : List Step :=
  [.newNode "a" "a" "A", .newNode "b" "b" "B", .newChart "c", .newChart "d",
    .chart "c" (.add .node ["a"]), .chart "d" (.add .node ["b", "a"])]

theorem chart_runAll_twoCharts :
    let s := (({} : Session).runAll twoCharts).1
    let members := ["c", "d", "d"]
    let after := (s.step (.chart "c" (.add .subgraph members))).1.workspace.store.chart ⟨0⟩
    s.find Thing.chart? "c" = .ok ⟨0⟩ ∧
      s.findAll Thing.chart? members = .ok [⟨0⟩, ⟨1⟩, ⟨1⟩] ∧
      after.nodes = [⟨0⟩, ⟨1⟩] ∧ after.subgraphs = [⟨1⟩] := by
  intro s members after
  have hc : s.find Thing.chart? "c" = .ok ⟨0⟩ := by rfl
  have hcs : s.findAll Thing.chart? members = .ok [⟨0⟩, ⟨1⟩, ⟨1⟩] := by rfl
  obtain ⟨-, -, -, -, hadd⟩ := (chart_runAll twoCharts).2.2 "c" ⟨0⟩ members hc
  have hafter := congrFun (hadd _ hcs) ⟨0⟩
  refine ⟨hc, hcs, ?_, ?_⟩
  · exact (congrArg Chart.nodes hafter).trans (by rfl)
  · exact (congrArg Chart.subgraphs hafter).trans (by rfl)

end Session

end Flowchart
