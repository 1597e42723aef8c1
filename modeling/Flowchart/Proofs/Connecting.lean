import Flowchart.Proofs.Closed
import Flowchart.Proofs.TextNodes
import Mathlib.Data.List.Find
import Mathlib.Data.List.Forall2

/-!
# Connections between texts

A call that connects two texts makes the nodes that these stand for, where they are new, and an edge
between them (`Workspace.extends_connect`). Some calls one after the other make the nodes of all
their texts and one edge each (`Workspace.extends_connections`).

The main statements are `Session.connections_runAll`, what becomes of a chart if every text has a
slug, and `Session.nodup_ids_connections_iff`, when the identifiers of a new chart are all
different.
-/

namespace Flowchart

open Text (slugify)

-- Which slug a text has is never computed here.
attribute [local irreducible] Text.slugify

/-! ## Charts that texts make nodes in -/

namespace Workspace

variable {w mid after : Workspace} {c : ChartId} {texts texts' : List String}
  {ns ns' : List NodeId} {es es' : List EdgeId} {id : String} {n m : NodeId}

/-- The identifiers of the nodes of a chart. -/
def ids (w : Workspace) (c : ChartId) : List String :=
  (w.store.chart c).nodes.map fun n => (w.store.node n).id

/-- A chart that is there, with its nodes and its edges. -/
structure Whole (w : Workspace) (c : ChartId) : Prop where
  placed : c.index < w.store.charts.size
  nodes : ∀ n ∈ (w.store.chart c).nodes, n.index < w.store.nodes.size
  edges : ∀ e ∈ (w.store.chart c).edges, e.index < w.store.edges.size

theorem findNode?_eq_none : w.store.findNode? c id = none ↔ id ∉ w.ids c := by
  simp [Store.findNode?, ids, List.find?_eq_none]

theorem mem_ids_of_findNode? (h : w.store.findNode? c id = some n) : id ∈ w.ids c := by
  by_contra hnot
  rw [findNode?_eq_none.mpr hnot] at h
  cases h

/-- What becomes of a workspace where the nodes of some texts and some edges have been made and have
joined a chart. -/
structure Extends (c : ChartId) (w after : Workspace) (texts : List String) (ns : List NodeId)
    (es : List EdgeId) : Prop where
  changes : w.Changes (fun _ => False) after
  chart_eq : after.store.chart c = { w.store.chart c with
    nodes := (w.store.chart c).nodes ++ ns
    edges := (w.store.chart c).edges ++ es }
  made : ns.map after.store.node = newNodes (w.ids c) w.names.nodes texts
  fresh_nodes : ∀ n ∈ ns, w.store.nodes.size ≤ n.index ∧ n.index < after.store.nodes.size
  fresh_edges : ∀ e ∈ es, w.store.edges.size ≤ e.index ∧ e.index < after.store.edges.size
  names_eq : after.names = { w.names with nodes := w.names.nodes + slugless texts }

namespace Extends

theorem refl (w : Workspace) (c : ChartId) : Extends c w w [] [] [] where
  changes := Relation.ReflTransGen.refl
  chart_eq := by rw [List.append_nil, List.append_nil]
  made := rfl
  fresh_nodes _ hn := absurd hn List.not_mem_nil
  fresh_edges _ he := absurd he List.not_mem_nil
  names_eq := rfl

theorem whole (h : Extends c w after texts ns es) (hw : w.Whole c) : after.Whole c where
  placed := Nat.lt_of_lt_of_le hw.placed h.changes.size_le
  nodes n hn := by
    rw [h.chart_eq, List.mem_append] at hn
    rcases hn with hn | hn
    · exact Nat.lt_of_lt_of_le (hw.nodes n hn) h.changes.size_nodes_le
    · exact (h.fresh_nodes n hn).2
  edges e he := by
    rw [h.chart_eq, List.mem_append] at he
    rcases he with he | he
    · exact Nat.lt_of_lt_of_le (hw.edges e he) h.changes.size_edges_le
    · exact (h.fresh_edges e he).2

theorem ids_eq (h : Extends c w after texts ns es) (hw : w.Whole c) :
    after.ids c = w.ids c ++ (newNodes (w.ids c) w.names.nodes texts).map (·.id) := by
  have hold : (w.store.chart c).nodes.map (fun n => (after.store.node n).id) = w.ids c := by
    apply List.map_congr_left
    intro n hn
    rw [h.changes.node_eq (hw.nodes n hn)]
  rw [ids, h.chart_eq, List.map_append, hold, ← h.made, List.map_map]
  rfl

theorem trans (h : Extends c w mid texts ns es) (h' : Extends c mid after texts' ns' es')
    (hw : w.Whole c) : Extends c w after (texts ++ texts') (ns ++ ns') (es ++ es') where
  changes := Relation.ReflTransGen.trans h.changes h'.changes
  chart_eq := by rw [h'.chart_eq, h.chart_eq, List.append_assoc, List.append_assoc]
  made := by
    have hold : ns.map after.store.node = ns.map mid.store.node := by
      apply List.map_congr_left
      intro n hn
      exact h'.changes.node_eq (h.fresh_nodes n hn).2
    rw [List.map_append, hold, h.made, h'.made, h.ids_eq hw, h.names_eq, newNodes_append]
  fresh_nodes n hn := by
    rcases List.mem_append.mp hn with hn | hn
    · obtain ⟨hle, hlt⟩ := h.fresh_nodes n hn
      exact ⟨hle, Nat.lt_of_lt_of_le hlt h'.changes.size_nodes_le⟩
    · obtain ⟨hle, hlt⟩ := h'.fresh_nodes n hn
      exact ⟨Nat.le_trans h.changes.size_nodes_le hle, hlt⟩
  fresh_edges e he := by
    rcases List.mem_append.mp he with he | he
    · obtain ⟨hle, hlt⟩ := h.fresh_edges e he
      exact ⟨hle, Nat.lt_of_lt_of_le hlt h'.changes.size_edges_le⟩
    · obtain ⟨hle, hlt⟩ := h'.fresh_edges e he
      exact ⟨Nat.le_trans h.changes.size_edges_le hle, hlt⟩
  names_eq := by rw [h'.names_eq, h.names_eq, slugless_append, Nat.add_assoc]

/-- Among the nodes that a chart has had before, identifiers find what they did. -/
theorem find?_old (h : Extends c w after texts ns es) (hw : w.Whole c) (id : String) :
    (w.store.chart c).nodes.find? (fun n => (after.store.node n).id == id)
      = w.store.findNode? c id := by
  apply List.find?_congr
  intro n hn
  rw [h.changes.node_eq (hw.nodes n hn)]

/-- A node that is found by its identifier is found ever after. -/
theorem findNode?_eq (h : Extends c w after texts ns es) (hw : w.Whole c)
    (hfind : w.store.findNode? c id = some n) : after.store.findNode? c id = some n := by
  rw [Store.findNode?, h.chart_eq, List.find?_append, h.find?_old hw, hfind]
  rfl

/-- A node that is new is found if there has been none of its identifier. -/
theorem findNode?_new (h : Extends c w after texts [n] es) (hw : w.Whole c)
    (hfind : w.store.findNode? c (after.store.node n).id = none) :
    after.store.findNode? c (after.store.node n).id = some n := by
  rw [Store.findNode?, h.chart_eq, List.find?_append, h.find?_old hw, hfind, Option.none_or]
  exact List.find?_cons_of_pos (beq_self_eq_true _)

end Extends

/-! ### One end -/

/-- The node of an end of a connection, and the workspace once it has joined the chart. -/
def enter (w : Workspace) (c : ChartId) (t : Terminal) : NodeId × Workspace :=
  ((w.terminal c t).1, (w.terminal c t).2.updateChart c (·.addNodes [(w.terminal c t).1]))

/-- A text that has a slug stands for the first node of the chart that has it as identifier. -/
def Stands (w : Workspace) (c : ChartId) (text : String) (n : NodeId) : Prop :=
  slugify text ≠ "" → w.store.findNode? c (slugify text) = some n

theorem changesAt_enter (w : Workspace) (c : ChartId) (t : Terminal) :
    w.ChangesAt (fun _ => False) c (w.enter c t).2 :=
  (changesAt_terminal w c t).tail (.updateChart (.addNodes [(w.terminal c t).1]))

/-- A new node, under a name that has been drawn or under a slug, joins at the end. -/
theorem extends_addNode (hw : w.Whole c) {names : Names} {x : Node} {text : String}
    (hnames : names = { w.names with nodes := w.names.nodes + slugless [text] })
    (hmade : newNodes (w.ids c) w.names.nodes [text] = [x]) :
    let added := { w with names }.addNode x
    w.enter c (.text text) = (added.1, added.2.updateChart c (·.addNodes [added.1])) →
      Extends c w (w.enter c (.text text)).2 [text] [added.1] [] := by
  intro added henter
  have hchanges : w.Changes (fun _ => False) (w.enter c (.text text)).2 :=
    (changesAt_enter w c (.text text)).changes
  have hnew : added.1 ∉ (w.store.chart c).nodes := fun hmem =>
    Nat.lt_irrefl _ (hw.nodes _ hmem)
  have hchart : added.2.store.chart c = w.store.chart c := rfl
  rw [henter] at hchanges ⊢
  exact
    { changes := hchanges
      chart_eq := by
        rw [chart_updateChart_self (w := added.2) hw.placed, hchart, Chart.addNodes_eq,
          newcomers_singleton_of_not_mem hnew, List.append_nil]
      made := by
        rw [hmade]
        exact congrArg (fun y => [y]) (Store.node_newNode_self w.store x)
      fresh_nodes := by
        intro n hn
        rw [List.mem_singleton.mp hn]
        exact ⟨Nat.le_refl _, index_addNode_lt { w with names } x⟩
      fresh_edges := fun e he => absurd he List.not_mem_nil
      names_eq := hnames }

/-- A node that is found stays where it is. -/
theorem extends_of_findNode? (hw : w.Whole c) {text : String} (hslug : slugify text ≠ "")
    (hfind : w.store.findNode? c (slugify text) = some n) :
    w.enter c (.text text) = (n, w.updateChart c (·.addNodes [n])) →
      Extends c w (w.enter c (.text text)).2 [text] [] [] := by
  intro henter
  have hchanges : w.Changes (fun _ => False) (w.enter c (.text text)).2 :=
    (changesAt_enter w c (.text text)).changes
  rw [henter] at hchanges ⊢
  exact
    { changes := hchanges
      chart_eq := by
        rw [chart_updateChart_self hw.placed, Chart.addNodes_eq,
          newcomers_singleton_of_mem (List.mem_of_find?_eq_some hfind), List.append_nil,
          List.append_nil]
      made := by
        rw [newNodes_cons_of_mem hslug (mem_ids_of_findNode? hfind)]
        rfl
      fresh_nodes := fun n hn => absurd hn List.not_mem_nil
      fresh_edges := fun e he => absurd he List.not_mem_nil
      names_eq := by
        rw [slugless_cons_of_ne hslug]
        rfl }

/-- The node of a text joins the chart, if it is new, and stands for the text from then on. -/
theorem extends_enter (hw : w.Whole c) (text : String) :
    ∃ ns, Extends c w (w.enter c (.text text)).2 [text] ns [] ∧
      (w.enter c (.text text)).1 ∈ ((w.enter c (.text text)).2.store.chart c).nodes ∧
      (w.enter c (.text text)).2.Stands c text (w.enter c (.text text)).1 := by
  by_cases hslug : slugify text = ""
  · -- A node under a generated name is made, whatever there is in the chart.
    let names : Names := { w.names with nodes := w.names.nodes + 1 }
    let added := { w with names }.addNode { id := generatedName "node" w.names.nodes, text }
    have henter : w.enter c (.text text)
        = (added.1, added.2.updateChart c (·.addNodes [added.1])) := by
      rw [enter, terminal, if_pos hslug]
      rfl
    have hnames : names = { w.names with nodes := w.names.nodes + slugless [text] } := by
      rw [slugless_cons_of_eq hslug]
      rfl
    have hextends := extends_addNode hw hnames (newNodes_cons_of_eq hslug) henter
    refine ⟨[added.1], hextends, ?_, fun h => absurd hslug h⟩
    rw [hextends.chart_eq, henter]
    exact List.mem_append_right _ List.mem_cons_self
  cases hfind : w.store.findNode? c (slugify text) with
  | some n =>
    have henter : w.enter c (.text text) = (n, w.updateChart c (·.addNodes [n])) := by
      rw [enter, terminal, if_neg hslug, hfind]
    have hextends := extends_of_findNode? hw hslug hfind henter
    refine ⟨[], hextends, ?_, fun _ => ?_⟩
    · rw [hextends.chart_eq, henter]
      exact List.mem_append_left _ (List.mem_of_find?_eq_some hfind)
    · rw [hextends.findNode?_eq hw hfind, henter]
  | none =>
    let added := w.addNode { id := slugify text, text }
    have henter : w.enter c (.text text)
        = (added.1, added.2.updateChart c (·.addNodes [added.1])) := by
      rw [enter, terminal, if_neg hslug, hfind]
    have hnames : w.names = { w.names with nodes := w.names.nodes + slugless [text] } := by
      rw [slugless_cons_of_ne hslug]
      rfl
    have hextends := extends_addNode hw hnames
      (newNodes_cons_of_not_mem hslug (findNode?_eq_none.mp hfind)) henter
    have hid : ((w.enter c (.text text)).2.store.node added.1).id = slugify text := by
      rw [henter]
      exact congrArg Node.id (Store.node_newNode_self w.store _)
    refine ⟨[added.1], hextends, ?_, fun _ => ?_⟩
    · rw [hextends.chart_eq, henter]
      exact List.mem_append_right _ List.mem_cons_self
    · rw [← hid] at hfind
      have hfound := hextends.findNode?_new hw hfind
      rw [hid] at hfound
      rw [hfound, henter]

/-! ### Both ends and the edge -/

theorem charts_terminal (w : Workspace) (c : ChartId) (t : Terminal) :
    (w.terminal c t).2.store.charts = w.store.charts := by
  cases t with
  | node n => rfl
  | text text =>
    simp only [terminal]
    split
    · rfl
    · split <;> rfl

/-- The second end is not added by itself: it comes along with the edge. -/
theorem connect_eq (w : Workspace) (c : ChartId) (t u : Terminal) (depth : Nat) :
    w.connect c t u depth =
      let first := w.enter c t
      let found := first.2.terminal c u
      let added := found.2.addEdge { Edge.arrowTo first.1 found.1 with depth }
      added.2.updateChart c (·.addEdges added.2.store [added.1]) :=
  rfl

/-- Two ends are connected as if both had entered the chart first, and then the edge. -/
theorem connect_eq_enter (t u : Terminal) (depth : Nat) :
    let first := w.enter c t
    let second := first.2.enter c u
    let e : EdgeId := ⟨second.2.store.edges.size⟩
    let after := w.connect c t u depth
    first.2.Whole c → first.1 ∈ (first.2.store.chart c).nodes →
      after.store.nodes = second.2.store.nodes ∧ after.names = second.2.names ∧
      after.store.edges
        = second.2.store.edges.push { Edge.arrowTo first.1 second.1 with depth } ∧
      after.store.chart c = { second.2.store.chart c with
        edges := (second.2.store.chart c).edges ++ [e] } := by
  intro first second e after hfirst hmem
  have hconnect : after = _ := connect_eq w c t u depth
  rw [hconnect]
  refine ⟨rfl, rfl, rfl, ?_⟩
  let found := first.2.terminal c u
  let x : Edge := { Edge.arrowTo first.1 found.1 with depth }
  have hcharts : found.2.store.chart = first.2.store.chart :=
    Store.chart_eq_of_charts_eq (charts_terminal first.2 c u)
  have hplaced : c.index < found.2.store.charts.size := by
    rw [charts_terminal]
    exact hfirst.placed
  have hfresh : e ∉ (found.2.store.chart c).edges := by
    intro he
    rw [hcharts] at he
    have hle : first.2.store.edges.size ≤ found.2.store.edges.size :=
      (changes_terminal first.2 c u).size_edges_le
    exact absurd (hfirst.edges e he) (Nat.not_lt_of_le hle)
  have hadded := chart_updateChart_self (w := (found.2.addEdge x).2) hplaced
    (·.addEdges (found.2.addEdge x).2.store [e])
  have hsecond : second.2.store.chart c = (found.2.store.chart c).addNodes [found.1] :=
    chart_updateChart_self hplaced _
  have hedge : (found.2.addEdge x).2.store.edge e = x := edge_addEdge_self found.2 x
  rw [← hcharts] at hmem
  refine hadded.trans ?_
  rw [hsecond]
  show Chart.addEdge _ (found.2.store.chart c) e = _
  rw [Chart.addEdge, if_neg hfresh, hedge]
  -- The first end is a member by then.
  have hnodes : withMembers (found.2.store.chart c).nodes x.nodes
      = withMembers (found.2.store.chart c).nodes [found.1] := by
    show withMember (withMember _ first.1) found.1 = withMember _ found.1
    rw [withMember_of_mem hmem]
  rw [hnodes]
  rfl

/-- An edge that is made at last joins at the end. -/
theorem Extends.addEdge (h : Extends c w mid texts ns []) {x : Edge}
    (hchanges : w.Changes (fun _ => False) after) (hnodes : after.store.nodes = mid.store.nodes)
    (hnames : after.names = mid.names) (hedges : after.store.edges = mid.store.edges.push x)
    (hchart : after.store.chart c = { mid.store.chart c with
      edges := (mid.store.chart c).edges ++ [⟨mid.store.edges.size⟩] }) :
    Extends c w after texts ns [⟨mid.store.edges.size⟩] where
  changes := hchanges
  chart_eq := by rw [hchart, h.chart_eq, List.append_nil]
  made := by
    rw [← h.made]
    unfold Store.node
    rw [hnodes]
  fresh_nodes := by
    rw [hnodes]
    exact h.fresh_nodes
  fresh_edges := by
    intro e he
    rw [List.mem_singleton.mp he, hedges, Shelf.size_push]
    exact ⟨h.changes.size_edges_le, Nat.lt_succ_self _⟩
  names_eq := hnames.trans h.names_eq

theorem Stands.congr {text : String} (h : mid.Stands c text n)
    (hnodes : after.store.nodes = mid.store.nodes)
    (hchart : (after.store.chart c).nodes = (mid.store.chart c).nodes) :
    after.Stands c text n := by
  intro hslug
  rw [← h hslug]
  unfold Store.findNode? Store.node
  rw [hchart, hnodes]

/-- What a call makes of the chart: an edge between the nodes that its texts stand for. -/
theorem extends_connect (hw : w.Whole c) (a b : String) (depth : Nat) :
    let after := w.connect c (.text a) (.text b) depth
    ∃ ns e source target, Extends c w after [a, b] ns [e] ∧
      after.Stands c a source ∧ after.Stands c b target ∧
      after.store.edge e = { Edge.arrowTo source target with depth } := by
  intro after
  obtain ⟨ns, hfirst, hmem, hsource⟩ := extends_enter hw a
  have hmid := hfirst.whole hw
  obtain ⟨ns', hsecond, -, htarget⟩ := extends_enter hmid b
  have hsource' : _ := fun h => hsecond.findNode?_eq hmid (hsource h)
  obtain ⟨hnodes, hnames, hedges, hchart⟩ :=
    connect_eq_enter (.text a) (.text b) depth hmid hmem
  have hchanges : w.Changes (fun _ => False) after :=
    (changesAt_connect w c (.text a) (.text b) depth).changes
  have hextends := (hfirst.trans hsecond hw).addEdge hchanges hnodes hnames hedges hchart
  have hchartNodes := congrArg Chart.nodes hchart
  refine ⟨_, _, _, _, hextends, Stands.congr hsource' hnodes hchartNodes,
    htarget.congr hnodes hchartNodes, ?_⟩
  unfold Store.edge
  rw [hedges]
  exact Shelf.get_push_self _ _

end Workspace

/-! ## Calls one after the other -/

/-- A call that connects two texts. -/
structure Connection where
  source : String
  target : String
  depth : Nat

namespace Connection

/-- The texts of a call, the source first. -/
def texts (k : Connection) : List String :=
  [k.source, k.target]

/-- The call as a step about the chart of a handle. -/
def step (k : Connection) (h : Handle) : Step :=
  .chart h (.connect (.text k.source) (.text k.target) k.depth)

/-- An edge of a chart that a call makes. -/
def Draws (k : Connection) (w : Workspace) (c : ChartId) (e : EdgeId) : Prop :=
  ∃ source target, w.Stands c k.source source ∧ w.Stands c k.target target ∧
    w.store.edge e = { Edge.arrowTo source target with depth := k.depth }

end Connection

namespace Workspace

variable {w mid after : Workspace} {c : ChartId} {texts : List String} {ns : List NodeId}
  {es : List EdgeId} {calls : List Connection} {k : Connection} {e : EdgeId}

/-- Runs some calls on a chart. -/
def connections (w : Workspace) (c : ChartId) (calls : List Connection) : Workspace :=
  calls.foldl (fun w k => w.connect c (.text k.source) (.text k.target) k.depth) w

/-- The edge of a call stays as it is. -/
theorem Extends.draws (h : Extends c w after texts ns es) (hw : w.Whole c)
    (he : e.index < w.store.edges.size) (hk : k.Draws w c e) : k.Draws after c e := by
  obtain ⟨source, target, hsource, htarget, hedge⟩ := hk
  refine ⟨source, target, fun hslug => h.findNode?_eq hw (hsource hslug),
    fun hslug => h.findNode?_eq hw (htarget hslug), ?_⟩
  rw [h.changes.edge_eq he, hedge]

theorem extends_connections (hw : w.Whole c) (calls : List Connection) :
    ∃ ns es, Extends c w (w.connections c calls) (calls.flatMap Connection.texts) ns es ∧
      List.Forall₂ (fun k e => k.Draws (w.connections c calls) c e) calls es := by
  induction calls generalizing w with
  | nil => exact ⟨[], [], .refl w c, .nil⟩
  | cons k calls ih =>
    obtain ⟨ns, e, source, target, hfirst, hsource, htarget, hedge⟩ :=
      extends_connect hw k.source k.target k.depth
    have hmid := hfirst.whole hw
    obtain ⟨ns', es', hrest, hdraws⟩ := ih hmid
    have he := (hfirst.fresh_edges e List.mem_cons_self).2
    refine ⟨ns ++ ns', [e] ++ es', hfirst.trans hrest hw, .cons ?_ hdraws⟩
    exact hrest.draws hmid he ⟨source, target, hsource, htarget, hedge⟩

end Workspace

/-! ## Sessions -/

namespace Session

variable {s : Session} {h : Handle} {c : ChartId}

theorem step_connection (hc : s.find Thing.chart? h = .ok c) (k : Connection) :
    (s.step (k.step h)).1 = { s with
      workspace := s.workspace.connect c (.text k.source) (.text k.target) k.depth } := by
  have hrun : s.run (k.step h) = .ok (s.answerChart
      (s.workspace.connect c (.text k.source) (.text k.target) k.depth) c) := by
    rw [Connection.step, run, hc]
    rfl
  rw [step, hrun]
  rfl

/-- Calls on a chart that has a handle are run in the workspace. -/
theorem runAll_connections (hc : s.find Thing.chart? h = .ok c) (calls : List Connection) :
    (s.runAll (calls.map (·.step h))).1
      = { s with workspace := s.workspace.connections c calls } := by
  induction calls generalizing s with
  | nil => rfl
  | cons k calls ih =>
    have hstep := step_connection hc k
    have hc' : (s.step (k.step h)).1.find Thing.chart? h = .ok c := by
      rw [hstep]
      exact hc
    show ((s.step (k.step h)).1.runAll (calls.map (·.step h))).1 = _
    rw [ih hc', hstep]
    rfl

/-- In a session that has been run, a chart whose nodes and edges are there. -/
theorem whole_runAll (steps : List Step) (hc : (runAll {} steps).1.find Thing.chart? h = .ok c) :
    (runAll {} steps).1.workspace.Whole c := by
  have horderly : (runAll {} steps).1.Orderly := orderly_empty.runAll steps
  have hclosed : (runAll {} steps).1.Closed := closed_empty.runAll orderly_empty steps
  exact ⟨horderly.given (.chart c) ⟨h, find_chart_eq_ok.mp hc⟩, hclosed.store.members c,
    horderly.store.edges c⟩

/-- However a session has been run, calls on a chart whose texts all have slugs make one node for
each slug that is not the identifier of a node of the chart, in the order of first appearance, with
the first text of that slug, and one edge each, with an arrowhead at the second end: it leads
between the first nodes of the chart that have the slugs of the two texts as identifiers. No name is
drawn, and what there was is as it was. -/
theorem connections_runAll (steps : List Step) (calls : List Connection)
    (hc : (runAll {} steps).1.find Thing.chart? h = .ok c)
    (hslugs : ∀ k ∈ calls, ∀ t ∈ k.texts, slugify t ≠ "") :
    let w := (runAll {} steps).1.workspace
    let after := ((runAll {} steps).1.runAll (calls.map (·.step h))).1.workspace
    let chart := w.store.chart c
    let ids := chart.nodes.map fun n => (w.store.node n).id
    let texts := calls.flatMap Connection.texts
    ∃ ns es,
      after.store.chart c
        = { chart with nodes := chart.nodes ++ ns, edges := chart.edges ++ es } ∧
      ns.map after.store.node = (firstsBy slugify (texts.filter fun t => slugify t ∉ ids)).map
        (fun t => { id := slugify t, text := t }) ∧
      List.Forall₂ (fun k e => ∃ source target,
        after.store.findNode? c (slugify k.source) = some source ∧
        after.store.findNode? c (slugify k.target) = some target ∧
        after.store.edge e = {
          source := { node := source, arrow := false }
          target := { node := target, arrow := true }
          depth := k.depth, line := .solid, label := none, link := none }) calls es ∧
      es.Nodup ∧ after.names = w.names ∧
      (∀ n, n.index < w.store.nodes.size → after.store.node n = w.store.node n ∧ n ∉ ns) ∧
      (∀ e, e.index < w.store.edges.size → after.store.edge e = w.store.edge e ∧ e ∉ es) := by
  intro w after chart ids texts
  have hw : w.Whole c := whole_runAll steps hc
  have hafter : after = w.connections c calls :=
    congrArg Session.workspace (runAll_connections hc calls)
  have horderly : after.store.Orderly :=
    ((orderly_empty.runAll steps).runAll (calls.map (·.step h))).store
  obtain ⟨ns, es, hextends, hdraws⟩ := Workspace.extends_connections hw calls
  rw [← hafter] at hextends hdraws
  have htexts : ∀ t ∈ texts, slugify t ≠ "" := by
    intro t ht
    obtain ⟨k, hk, ht⟩ := List.mem_flatMap.mp ht
    exact hslugs k hk t ht
  refine ⟨ns, es, hextends.chart_eq, ?_, ?_, ?_, ?_, fun n hn => ?_, fun e he => ?_⟩
  · rw [hextends.made, newNodes_eq_firstsBy htexts]
    rfl
  · refine ((List.forall₂_and_left calls es).mpr ⟨hslugs, hdraws⟩).imp ?_
    rintro k e ⟨hk, source, target, hsource, htarget, hedge⟩
    exact ⟨source, target, hsource (hk k.source List.mem_cons_self),
      htarget (hk k.target (List.mem_cons_of_mem _ List.mem_cons_self)), hedge⟩
  · have hnodup := (horderly.distinct c).edges
    rw [hextends.chart_eq] at hnodup
    exact (List.nodup_append.mp hnodup).2.1
  · have hnone : slugless texts = 0 :=
      List.countP_eq_zero.mpr fun t ht => by simpa using htexts t ht
    rw [hextends.names_eq, hnone]
    rfl
  · refine ⟨hextends.changes.node_eq hn, fun hmem => ?_⟩
    exact Nat.not_lt_of_le (hextends.fresh_nodes n hmem).1 hn
  · refine ⟨hextends.changes.edge_eq he, fun hmem => ?_⟩
    exact Nat.not_lt_of_le (hextends.fresh_edges e hmem).1 he

/-- A chart that holds a node. -/
def startNode : List Step :=
  [.newNode "s" "start" "Begin", .newChart "g", .chart "g" (.add .node ["s"])]

/-- Two calls on it, with texts that differ in letters and signs only. -/
def startCalls : List Connection :=
  [⟨"Start!", "The End", 0⟩, ⟨"the end", "start", 2⟩]

/-- One node is made, for the first of the texts that share a slug, and the second call leads from
it to the node that was there. -/
theorem connections_runAll_startCalls :
    (runAll {} startNode).1.find Thing.chart? "g" = .ok ⟨0⟩ ∧
      (∀ k ∈ startCalls, ∀ t ∈ k.texts, slugify t ≠ "") ∧
      let after := ((runAll {} startNode).1.runAll (startCalls.map (·.step "g"))).1.workspace
      ∃ ns e e' n, (after.store.chart ⟨0⟩).nodes = [⟨0⟩] ++ ns ∧
        ns.map after.store.node = [{ id := "the-end", text := "The End" }] ∧
        (after.store.chart ⟨0⟩).edges = [e, e'] ∧
        after.store.findNode? ⟨0⟩ "the-end" = some n ∧
        after.store.edge e' = { Edge.arrowTo n ⟨0⟩ with depth := 2 } := by
  have hc : (runAll {} startNode).1.find Thing.chart? "g" = .ok ⟨0⟩ := by rfl
  have hslugs : ∀ k ∈ startCalls, ∀ t ∈ k.texts, slugify t ≠ "" := by
    simp only [startCalls, Connection.texts, List.forall_mem_cons]
    decide +kernel
  refine ⟨hc, hslugs, ?_⟩
  intro after
  obtain ⟨ns, es, hchart, hmade, hdraws, -⟩ := connections_runAll startNode startCalls hc hslugs
  have hnodes : (after.store.chart ⟨0⟩).nodes = [⟨0⟩] ++ ns := congrArg Chart.nodes hchart
  have hedges : (after.store.chart ⟨0⟩).edges = es := congrArg Chart.edges hchart
  have hmade' : ns.map after.store.node = [{ id := "the-end", text := "The End" }] :=
    hmade.trans (by decide +kernel)
  obtain _ | ⟨-, hrest⟩ := hdraws
  obtain _ | ⟨⟨n, target, hsource, htarget, hedge⟩, hnone⟩ := hrest
  cases hnone
  have hend : slugify "the end" = "the-end" := by decide +kernel
  have hstart : after.store.findNode? ⟨0⟩ (slugify "start") = some ⟨0⟩ := by decide +kernel
  obtain rfl : ⟨0⟩ = target := Option.some.inj (hstart.symm.trans htarget)
  rw [hend] at hsource
  exact ⟨ns, _, _, n, hnodes, hmade', hedges, hsource, hedge⟩

/-- A chart is new; calls on it make nodes whose identifiers are all different if and only if no
text without a slug comes after one whose slug is the name that is drawn for it. -/
theorem nodup_ids_connections_iff (s : Session) (h : Handle) (calls : List Connection) :
    let made := (s.step (.newChart h)).1
    let after := (made.runAll (calls.map (·.step h))).1.workspace
    ∃ c, made.find Thing.chart? h = .ok c ∧
      ((after.ids c).Nodup ↔ ∀ before t rest,
        calls.flatMap Connection.texts = before ++ t :: rest → slugify t = "" →
          generatedName "node" (s.workspace.names.nodes + slugless before)
            ∉ before.map slugify) := by
  intro made after
  let c : ChartId := ⟨s.workspace.store.charts.size⟩
  have hc : made.find Thing.chart? h = .ok c :=
    find_chart_eq_ok.mpr (Dict.get?_insert_self s.handles h _)
  have hchart : made.workspace.store.chart c = s.workspace.newChart.2.store.chart c := rfl
  have hnew : made.workspace.store.chart c = { name := (s.workspace.nameOr .chart none).1 } :=
    hchart.trans (Store.chart_newChart_self _ _)
  have hwhole : made.workspace.Whole c := by
    refine ⟨s.workspace.index_newChart_lt, ?_, ?_⟩
    · rw [hnew]
      exact fun n hn => absurd hn List.not_mem_nil
    · rw [hnew]
      exact fun e he => absurd he List.not_mem_nil
  have hafter : after = made.workspace.connections c calls :=
    congrArg Session.workspace (runAll_connections hc calls)
  refine ⟨c, hc, ?_⟩
  obtain ⟨ns, es, hextends, -⟩ := Workspace.extends_connections hwhole calls
  have hids : made.workspace.ids c = [] := by
    rw [Workspace.ids, hnew]
    rfl
  have hnames : made.workspace.names.nodes = s.workspace.names.nodes := rfl
  rw [hafter, hextends.ids_eq hwhole, hids, List.nil_append, hnames, nodup_ids_newNodes_nil]

/-- A call whose first text has the slug that is drawn for the second one as a name. -/
def takenName : List Step :=
  [.newChart "g", .chart "g" (.connect (.text "node_0") (.text "!!!") 0)]

theorem same_ids_takenName :
    (runAll {} takenName).1.workspace.ids ⟨0⟩ = ["node_0", "node_0"] ∧
      ¬ ((runAll {} takenName).1.workspace.ids ⟨0⟩).Nodup := by
  have hids : (runAll {} takenName).1.workspace.ids ⟨0⟩ = ["node_0", "node_0"] := by
    decide +kernel
  refine ⟨hids, ?_⟩
  rw [hids]
  decide

end Session

end Flowchart
