import Flowchart.Proofs.Members
import Flowchart.Proofs.Placing

/-!
# Nodes that are there

The nodes of a chart, the ends of an edge and the nodes that handles name are all in the store,
however a session is run (`Session.Closed`). So a new node is none of them, and making it changes
none of the nodes that anything refers to.
-/

namespace Flowchart

/-! ## Stores -/

/-- A store that has the nodes of its charts and the ends of its edges. -/
structure Store.Closed (s : Store) : Prop where
  members : ∀ c, ∀ n ∈ (s.chart c).nodes, n.index < s.nodes.size
  ends : ∀ e : EdgeId, e.index < s.edges.size → ∀ n ∈ (s.edge e).nodes, n.index < s.nodes.size

namespace Store

theorem closed_empty : ({} : Store).Closed where
  members _ _ hn := absurd hn List.not_mem_nil
  ends _ he := absurd he (Nat.not_lt_zero _)

namespace Closed

variable {s t : Store}

/-- More nodes do no harm. -/
theorem congr (h : s.Closed) (hnodes : s.nodes.size ≤ t.nodes.size) (hedges : t.edges = s.edges)
    (hcharts : t.charts = s.charts) : t.Closed where
  members c n hn := by
    rw [chart_eq_of_charts_eq hcharts] at hn
    exact Nat.lt_of_lt_of_le (h.members c n hn) hnodes
  ends e he n hn := by
    rw [hedges] at he
    rw [edge, hedges] at hn
    exact Nat.lt_of_lt_of_le (h.ends e he n hn) hnodes

theorem newNode (h : s.Closed) (x : Node) : (s.newNode x).2.Closed :=
  h.congr (Nat.le_of_lt ((Shelf.size_push s.nodes x).symm ▸ Nat.lt_succ_self _)) rfl rfl

theorem newEdge (h : s.Closed) {x : Edge} (hx : ∀ n ∈ x.nodes, n.index < s.nodes.size) :
    (s.newEdge x).2.Closed where
  members := h.members
  ends e he n hn := by
    have hedge : (s.newEdge x).2.edge e = if e.index = s.edges.size then x else s.edge e :=
      Shelf.get_push s.edges x e.index
    rw [hedge] at hn
    split at hn
    · exact hx n hn
    · next hne =>
      have hlt : e.index < s.edges.size + 1 := Shelf.size_push s.edges x ▸ he
      exact h.ends e (by omega) n hn

theorem setEdge (h : s.Closed) {e : EdgeId} {x : Edge}
    (hx : e.index < s.edges.size → ∀ n ∈ x.nodes, n.index < s.nodes.size) :
    (s.setEdge e x).Closed where
  members := h.members
  ends d hd n hn := by
    have hlt : d.index < s.edges.size := Shelf.size_set s.edges e.index x ▸ hd
    by_cases heq : d.index = e.index
    · rw [edge, heq] at hn
      rw [heq] at hlt
      have hself : (s.setEdge e x).edges.get e.index = x := Shelf.get_set_self hlt x
      rw [hself] at hn
      exact hx hlt n hn
    · have hother : (s.setEdge e x).edge d = s.edge d := Shelf.get_set_of_ne s.edges heq x
      rw [hother] at hn
      exact h.ends d hlt n hn

end Closed

end Store

/-! ## Workspaces -/

namespace Workspace

variable {given : Thing → Prop} {w after : Workspace} {c d : ChartId}

theorem closed_addChart (h : w.store.Closed) {x : Chart}
    (hx : ∀ n ∈ x.nodes, n.index < w.store.nodes.size) : (w.addChart x).2.store.Closed where
  members d n hn := by
    rw [chart_addChart] at hn
    split at hn
    · exact hx n hn
    · exact h.members d n hn
  ends := h.ends

theorem closed_updateChart (h : w.store.Closed) {f : Chart → Chart}
    (hf : ∀ n ∈ (f (w.store.chart c)).nodes, n.index < w.store.nodes.size) :
    (w.updateChart c f).store.Closed where
  members d n hn := by
    rw [chart_updateChart] at hn
    split at hn
    · exact hf n hn
    · exact h.members d n hn
  ends := h.ends

/-- Changes of one chart give no nodes to other ones. -/
theorem ChangesAt.nodes_subset (h : w.ChangesAt given c after) (hne : d ≠ c) :
    (after.store.chart d).nodes ⊆ (w.store.chart d).nodes := by
  induction h with
  | refl => exact List.Subset.refl _
  | @tail mid after _ h ih =>
    refine List.Subset.trans ?_ ih
    cases h with
    | aside _ hcharts =>
      rw [Store.chart_eq_of_charts_eq hcharts]
      exact List.Subset.refl _
    | addChart name =>
      rw [chart_addChart]
      split
      · exact List.nil_subset _
      · exact List.Subset.refl _
    | updateChart =>
      rw [chart_updateChart, if_neg fun heq => hne heq.1]
      exact List.Subset.refl _

/-! ### Connecting -/

/-- An end of a connection: if it is a node, it is there. -/
def TerminalPlaced (w : Workspace) (t : Terminal) : Prop :=
  ∀ n, t = .node n → n.index < w.store.nodes.size

theorem index_addNode_lt (w : Workspace) (x : Node) :
    (w.addNode x).1.index < (w.addNode x).2.store.nodes.size :=
  (Shelf.size_push _ _).symm ▸ Nat.lt_succ_self _

theorem closed_terminal (h : w.store.Closed) {t : Terminal} (ht : w.TerminalPlaced t) :
    (w.terminal c t).2.store.Closed ∧
      (w.terminal c t).1.index < (w.terminal c t).2.store.nodes.size := by
  cases t with
  | node n => exact ⟨h, ht n rfl⟩
  | text text =>
    simp only [terminal]
    split
    · exact ⟨h.newNode _, index_addNode_lt _ _⟩
    · split
      · next n hn => exact ⟨h, h.members c n (List.mem_of_find?_eq_some hn)⟩
      · exact ⟨h.newNode _, index_addNode_lt _ _⟩

/-- A chart whose nodes are there has them still when nodes join that are there. -/
theorem closed_addNodes (h : w.store.Closed) {ns : List NodeId}
    (hns : ∀ n ∈ ns, n.index < w.store.nodes.size) :
    (w.updateChart c (·.addNodes ns)).store.Closed :=
  closed_updateChart h fun n hn =>
    (mem_withMembers.mp hn).elim (h.members c n) (hns n)

theorem closed_addEdges (h : w.store.Closed) {es : List EdgeId}
    (hes : ∀ e ∈ es, e.index < w.store.edges.size) :
    (w.updateChart c (·.addEdges w.store es)).store.Closed := by
  refine closed_updateChart h fun n hn => ?_
  rw [Chart.addEdges_eq, ← withMembers_eq, mem_withMembers, List.mem_flatMap] at hn
  rcases hn with hn | ⟨e, he, hn⟩
  · exact h.members c n hn
  · exact h.ends e (hes e (mem_newcomers.mp he).1) n hn

theorem closed_connect (h : w.store.Closed) {a b : Terminal} (ha : w.TerminalPlaced a)
    (hb : w.TerminalPlaced b) (depth : Nat) : (w.connect c a b depth).store.Closed := by
  obtain ⟨hsource, hplaced⟩ := closed_terminal (c := c) h ha
  have hmembers : ∀ n ∈ [(w.terminal c a).1], n.index < (w.terminal c a).2.store.nodes.size :=
    fun n hn => List.mem_singleton.mp hn ▸ hplaced
  have hjoined := closed_addNodes (c := c) hsource hmembers
  have hle : w.store.nodes.size ≤ (w.terminal c a).2.store.nodes.size :=
    (changes_terminal w c a).size_nodes_le
  obtain ⟨htarget, hplaced'⟩ := closed_terminal (c := c) hjoined (t := b)
    fun n hn => Nat.lt_of_lt_of_le (hb n hn) hle
  have hle' := (changes_terminal
    ((w.terminal c a).2.updateChart c (·.addNodes [(w.terminal c a).1])) c b).size_nodes_le
  refine closed_addEdges (htarget.newEdge fun n hn => ?_) fun e he => ?_
  · rcases List.mem_cons.mp hn with rfl | hn
    · exact Nat.lt_of_lt_of_le hplaced hle'
    · rw [List.mem_singleton.mp hn]
      exact hplaced'
  · rw [List.mem_singleton.mp he]
    exact index_addEdge_lt _ _

/-! ### The chart of a machine -/

/-- The edges that are drawn for transitions lead to nodes that have been drawn. -/
theorem index_ends_of_drawn {m : Machine} {rules : InstalledTable} {line : LineStyle}
    {base x : Workspace} {chart : Chart} {e : EdgeId} {n : NodeId}
    (hx : Drawn m rules line base c m.vertices m.arcs chart x)
    (hnew : base.store.edges.size ≤ e.index) (he : e.index < x.store.edges.size)
    (hn : n ∈ (x.store.edge e).nodes) : n.index < x.store.nodes.size := by
  have hmem : e ∈ Machine.arcRefs base m.arcs.length :=
    Machine.mem_arcRefs_of_le hnew (hx.size_edges ▸ he)
  have hedge : x.store.edge e ∈ m.arcs.map (m.arcEdge base line) :=
    hx.map_edge ▸ List.mem_map_of_mem hmem
  obtain ⟨a, ha, heq⟩ := List.mem_map.mp hedge
  rw [← heq] at hn
  obtain ⟨v, hv, rfl⟩ : ∃ v ∈ m.ends a, m.vertexRef base v = n := List.mem_map.mp hn
  exact hx.index_ref v (Machine.mem_vertices_of_mem_ends ha hv)

theorem closed_drawMachine (h : w.store.Closed) (m : Machine) (rules : InstalledTable) :
    Yields (w.drawMachine m rules) fun drawn => drawn.2.store.Closed := by
  intro drawn hdrawn
  obtain ⟨hnew, hchanges⟩ := @yields_drawMachine (fun _ => False) w m rules drawn hdrawn
  cases hset : MachineSettings.ofTags m.tags with
  | error e =>
    rw [drawMachine, hset] at hdrawn
    cases hdrawn
  | ok settings =>
    obtain ⟨c, name, ds, base, x, hok, hbase, hx⟩ := drawMachine_eq_ok w rules hset
    obtain rfl : (c, x) = drawn := Except.ok.inj (hok.symm.trans hdrawn)
    have hsize : w.store.nodes.size ≤ x.store.nodes.size := by
      rw [hx.size_nodes, hbase.nodes_eq]
      exact Nat.le_add_right _ _
    refine ⟨fun d n hn => ?_, fun e he n hn => ?_⟩
    · by_cases hd : d = c
      · -- The nodes of the chart are those of the vertices.
        rw [hd, hx.chart_eq] at hn
        obtain ⟨v, hv, rfl⟩ := List.mem_map.mp hn
        exact hx.index_ref v hv
      · have hold := hchanges.nodes_subset hd hn
        have hclosed : w.newChart.2.store.Closed :=
          closed_addChart h fun n hn => absurd hn List.not_mem_nil
        exact Nat.lt_of_lt_of_le (hclosed.members d n hold) hsize
    · by_cases hold : e.index < w.store.edges.size
      · have hsame : x.store.edge e = w.store.edge e :=
          Changes.edge_eq hchanges.changes (w := w.newChart.2) hold
        rw [hsame] at hn
        exact Nat.lt_of_lt_of_le (h.ends e hold n hn) hsize
      · have hnew : base.store.edges.size ≤ e.index := hbase.edges_eq ▸ Nat.le_of_not_lt hold
        exact index_ends_of_drawn hx hnew he hn

theorem closed_buildChart (h : w.store.Closed) (m : Machine) (t : StyleTable) :
    Yields (w.buildChart m t) fun built => built.2.store.Closed := by
  have hrules : (t.install w.store).2
      = { w.store with classes := (t.install w.store).2.classes } :=
    installRules_eq w.store t.entries
  have hinstalled : (t.install w.store).2.Closed := by
    rw [hrules]
    exact h.congr (Nat.le_refl _) rfl rfl
  exact closed_drawMachine (w := { w with store := (t.install w.store).2 }) hinstalled m _

end Workspace

/-! ## Sessions -/

/-- A session whose store is closed and whose handles name nodes that there are. -/
structure Session.Closed (s : Session) : Prop where
  store : s.workspace.store.Closed
  given : ∀ h n, s.find Thing.node? h = .ok n → n.index < s.workspace.store.nodes.size

namespace Session

theorem closed_empty : ({} : Session).Closed where
  store := Store.closed_empty
  given _ _ hn := nomatch hn

namespace Closed

variable {s after : Session} {h : Handle} {x : Thing}

/-- A step that gives no handles may make nodes. -/
theorem answer (hs : s.Closed) (hhandles : after.handles = s.handles)
    (hstore : after.workspace.store.Closed)
    (hle : s.workspace.store.nodes.size ≤ after.workspace.store.nodes.size) : after.Closed where
  store := hstore
  given h n hn := by
    rw [find, hhandles] at hn
    exact Nat.lt_of_lt_of_le (hs.given h n hn) hle

/-- A step that gives no handles and changes neither which nodes there are nor edges nor charts. -/
theorem keep (hs : s.Closed) (hhandles : after.handles = s.handles)
    (hnodes : after.workspace.store.nodes.size = s.workspace.store.nodes.size)
    (hedges : after.workspace.store.edges = s.workspace.store.edges)
    (hcharts : after.workspace.store.charts = s.workspace.store.charts) : after.Closed :=
  hs.answer hhandles (hs.store.congr (Nat.le_of_eq hnodes.symm) hedges hcharts)
    (Nat.le_of_eq hnodes.symm)

/-- A step that gives a handle, to a node that is there or to another thing. -/
theorem insert (hs : s.Closed) (hhandles : after.handles = s.handles.insert h x)
    (hstore : after.workspace.store.Closed)
    (hle : s.workspace.store.nodes.size ≤ after.workspace.store.nodes.size)
    (hx : ∀ n, x = .node n → n.index < after.workspace.store.nodes.size) : after.Closed where
  store := hstore
  given h' n hn := by
    obtain ⟨y, hget, hy⟩ := find_eq_ok.mp hn
    obtain rfl : y = .node n := Thing.node?_eq_some.mp hy
    rw [hhandles] at hget
    by_cases hh : h' = h
    · rw [hh, Dict.get?_insert_self] at hget
      exact hx n (Option.some.inj hget)
    · rw [Dict.get?_insert_of_ne _ _ hh] at hget
      exact Nat.lt_of_lt_of_le (hs.given h' n (find_eq_ok.mpr ⟨_, hget, rfl⟩)) hle

/-- A step that gives a handle to a thing that is no node. -/
theorem insertOther (hs : s.Closed) (hhandles : after.handles = s.handles.insert h x)
    (hx : x.node? = none) (hstore : after.workspace.store.Closed)
    (hle : s.workspace.store.nodes.size ≤ after.workspace.store.nodes.size) : after.Closed := by
  refine hs.insert hhandles hstore hle fun n hn => ?_
  rw [hn] at hx
  cases hx

/-- A step that gives a handle to a thing that is no node, and changes neither nodes nor edges nor
charts. -/
theorem insertAside (hs : s.Closed) (hhandles : after.handles = s.handles.insert h x)
    (hx : x.node? = none) (hnodes : after.workspace.store.nodes = s.workspace.store.nodes)
    (hedges : after.workspace.store.edges = s.workspace.store.edges)
    (hcharts : after.workspace.store.charts = s.workspace.store.charts) : after.Closed :=
  have hle := Nat.le_of_eq (congrArg Shelf.size hnodes.symm)
  hs.insertOther hhandles hx (hs.store.congr hle hedges hcharts) hle

end Closed

/-! ### Steps about one thing -/

variable {s : Session}

theorem Closed.runNode (hs : s.Closed) (n : NodeId) (st : NodeStep) :
    Yields (s.runNode n st) fun p => p.1.Closed := by
  cases st with
  | state => exact yields_ok hs
  | text => exact yields_ok (hs.keep rfl (Shelf.size_set _ _ _) rfl rfl)
  | shape | classStyle =>
    exact yields_bind fun _ _ => yields_ok (hs.keep rfl (Shelf.size_set _ _ _) rfl rfl)
  | hasClass => exact yields_bind fun _ _ => yields_ok hs
  | render | reset => exact yields_ok (hs.keep rfl rfl rfl rfl)

/-- A change of an edge that is there leads to nodes that are there. -/
theorem Closed.updateEdge (hs : s.Closed) {e : EdgeId} {f : Edge → Edge}
    (hf : ∀ n ∈ (f (s.workspace.store.edge e)).nodes,
      n ∈ (s.workspace.store.edge e).nodes ∨ n.index < s.workspace.store.nodes.size) :
    Yields (.ok (s.answerEdge (s.workspace.updateEdge e f) e) : Outcome) fun p => p.1.Closed := by
  refine yields_ok (hs.answer rfl (hs.store.setEdge fun he n hn => ?_) (Nat.le_refl _))
  exact (hf n hn).elim (hs.store.ends e he n) id

theorem Closed.endpoint (hs : s.Closed) (node : Handle) (arrow : Bool) (style : Option String) :
    Yields (s.endpoint node arrow style) fun x =>
      x.node.index < s.workspace.store.nodes.size :=
  yields_bind fun n hn => yields_bind fun _ _ => yields_ok (hs.given node n hn)

theorem Closed.runEdge (hs : s.Closed) (e : EdgeId) (st : EdgeStep) :
    Yields (s.runEdge e st) fun p => p.1.Closed := by
  cases st with
  | state | connector => exact yields_ok hs
  | render => exact yields_ok (hs.keep rfl rfl rfl rfl)
  | depth | label => exact hs.updateEdge fun _ => .inl
  | line | link => exact yields_bind fun _ _ => hs.updateEdge fun _ => .inl
  | source node arrow style =>
    refine yields_bind fun x hx => hs.updateEdge fun n hn => ?_
    rcases List.mem_cons.mp hn with rfl | hn
    · exact .inr (hs.endpoint node arrow style x hx)
    · exact .inl (List.mem_cons_of_mem _ hn)
  | target node arrow style =>
    refine yields_bind fun x hx => hs.updateEdge fun n hn => ?_
    rcases List.mem_cons.mp hn with rfl | hn
    · exact .inl List.mem_cons_self
    · rw [List.mem_singleton.mp hn]
      exact .inr (hs.endpoint node arrow style x hx)

theorem Closed.runClass (hs : s.Closed) (k : ClassId) (st : ClassStep) :
    Yields (s.runClass k st) fun p => p.1.Closed := by
  cases st with
  | set => exact yields_bind fun _ _ => yields_ok (hs.keep rfl rfl rfl rfl)
  | get => exact yields_bind fun _ _ => yields_ok hs
  | render => exact yields_ok hs

theorem Closed.runLink (hs : s.Closed) (h : Handle) (l : LinkStyle) (st : LinkStep) :
    Yields (s.runLink h l st) fun p => p.1.Closed := by
  cases st with
  | set => exact yields_bind fun _ _ => yields_ok (hs.insertAside rfl rfl rfl rfl rfl)
  | render => exact yields_ok hs

theorem Closed.runDirective (hs : s.Closed) (d : DirectiveId) (st : DirectiveStep) :
    Yields (s.runDirective d st) fun p => p.1.Closed := by
  cases st with
  | theme | font | themeVariables => exact yields_ok (hs.keep rfl rfl rfl rfl)
  | curve | options => exact yields_bind fun _ _ => yields_ok (hs.keep rfl rfl rfl rfl)
  | getOption => exact yields_bind fun _ _ => yields_ok hs
  | getVariable => exact yields_ok hs

/-! ### Steps about charts -/

/-- What is added to a chart brings along nodes that are there. -/
theorem Closed.addition (hs : s.Closed) (horderly : s.Orderly) (c : ChartId)
    (members : List Handle) (list : Membership) :
    Yields (s.addition c members list) fun f =>
      ∀ n ∈ (f (s.workspace.store.chart c)).nodes, n.index < s.workspace.store.nodes.size := by
  cases list with
  | node =>
    refine yields_bind fun ns hns => yields_ok fun n hn => ?_
    rcases mem_withMembers.mp hn with hn | hn
    · exact hs.store.members c n hn
    · obtain ⟨m, -, hfind⟩ := yields_findAll s _ members ns hns n hn
      exact hs.given m n hfind
  | edge =>
    refine yields_bind fun es hes => yields_ok fun n hn => ?_
    rw [Chart.addEdges_eq, ← withMembers_eq, mem_withMembers, List.mem_flatMap] at hn
    rcases hn with hn | ⟨e, he, hn⟩
    · exact hs.store.members c n hn
    · obtain ⟨m, -, hfind⟩ := yields_findAll s _ members es hes e (mem_newcomers.mp he).1
      obtain ⟨x, hget, hx⟩ := find_eq_ok.mp hfind
      rw [Thing.edge?_eq_some.mp hx] at hget
      exact hs.store.ends e (horderly.given (.edge e) ⟨m, hget⟩) n hn
  | classStyle | directive =>
    exact yields_bind fun _ _ => yields_ok (hs.store.members c)
  | subgraph =>
    refine yields_bind fun cs hcs => yields_ok fun n hn => ?_
    rw [Chart.addSubgraphs_eq, ← withMembers_eq, mem_withMembers, List.mem_flatMap] at hn
    rcases hn with hn | ⟨d, -, hn⟩
    · exact hs.store.members c n hn
    · exact hs.store.members d n hn

theorem Closed.terminal (hs : s.Closed) (t : TerminalHandle) :
    Yields (s.terminal t) s.workspace.TerminalPlaced := by
  cases t with
  | node h =>
    refine yields_bind fun n hn => yields_ok fun m hm => ?_
    rw [← Terminal.node.inj hm]
    exact hs.given h n hn
  | text text => exact yields_ok fun n hn => nomatch hn

theorem Closed.updateChart (hs : s.Closed) {c : ChartId} {f : Chart → Chart}
    (hf : ∀ n ∈ (f (s.workspace.store.chart c)).nodes,
      n.index < s.workspace.store.nodes.size) :
    Yields (.ok (s.answerChart (s.workspace.updateChart c f) c) : Outcome) fun p => p.1.Closed :=
  yields_ok (hs.answer rfl (Workspace.closed_updateChart hs.store hf) (Nat.le_refl _))

theorem Closed.runChart (hs : s.Closed) (horderly : s.Orderly) (c : ChartId) (st : ChartStep) :
    Yields (s.runChart c st) fun p => p.1.Closed := by
  cases st with
  | add list members =>
    exact yields_bind fun f hf => hs.updateChart (hs.addition horderly c members list f hf)
  | connect a b depth =>
    refine yields_bind fun a ha => yields_bind fun b hb => yields_ok (hs.answer rfl ?_ ?_)
    · exact Workspace.closed_connect hs.store (hs.terminal _ a ha) (hs.terminal _ b hb) depth
    · have hchanges : s.workspace.ChangesAt (fun _ => False) c (s.workspace.connect c a b depth) :=
        Workspace.changesAt_connect s.workspace c a b depth
      exact hchanges.changes.size_nodes_le
  | named name => exact hs.updateChart (hs.store.members c)
  | direction | style | defaultClass | defaultLink =>
    exact yields_bind fun _ _ => hs.updateChart (hs.store.members c)

theorem Closed.runQuery (hs : s.Closed) (c : ChartId) (query : ChartQuery) :
    (s.runQuery c query).1.Closed := by
  have hnode (n : NodeId) (h : Handle) (hn : n ∈ (s.workspace.store.chart c).nodes) :
      (s.setHandle h (.node n)).Closed :=
    hs.insert rfl hs.store (Nat.le_refl _) fun m hm =>
      Thing.node.inj hm ▸ hs.store.members c n hn
  cases query with
  | state => exact hs
  | findNode id as =>
    rw [Session.runQuery]
    cases hn : s.workspace.store.findNode? c id with
    | none => exact hs
    | some n =>
      cases as with
      | none => exact hs
      | some h => exact hnode n h (List.mem_of_find?_eq_some hn)
  | member list index as =>
    cases list with
    | node =>
      rw [Session.runQuery, member]
      cases hn : (s.workspace.store.chart c).nodes[index]? with
      | none => exact hs
      | some n => exact hnode n as (List.mem_of_getElem? hn)
    | edge =>
      rw [Session.runQuery, member]
      cases (s.workspace.store.chart c).edges[index]? with
      | none => exact hs
      | some e => exact hs.insertAside rfl rfl rfl rfl rfl
    | classStyle =>
      rw [Session.runQuery, member]
      cases (s.workspace.store.chart c).classes[index]? with
      | none => exact hs
      | some k => exact hs.insertAside rfl rfl rfl rfl rfl
    | directive =>
      rw [Session.runQuery, member]
      cases (s.workspace.store.chart c).directives[index]? with
      | none => exact hs
      | some d => exact hs.insertAside rfl rfl rfl rfl rfl
    | subgraph =>
      rw [Session.runQuery, member]
      cases (s.workspace.store.chart c).subgraphs[index]? with
      | none => exact hs
      | some d => exact hs.insertAside rfl rfl rfl rfl rfl

/-! ### Every step -/

/-- A step that makes a node and gives it a handle. -/
theorem Closed.makeNode (hs : s.Closed) {after : Session} {x : Node} {h : Handle}
    (hhandles : after.handles = s.handles.insert h (.node ⟨s.workspace.store.nodes.size⟩))
    (hstore : after.workspace.store = (s.workspace.store.newNode x).2) : after.Closed := by
  have hsize : after.workspace.store.nodes.size = s.workspace.store.nodes.size + 1 :=
    hstore ▸ Shelf.size_push _ _
  refine hs.insert hhandles (hstore ▸ hs.store.newNode x) (by omega) fun n hn => ?_
  rw [← Thing.node.inj hn, hsize]
  exact Nat.lt_succ_self _

theorem Closed.run (hs : s.Closed) (horderly : s.Orderly) (st : Step) :
    Yields (s.run st) fun p => p.1.Closed := by
  cases st with
  | newNode as id text => exact yields_ok (hs.makeNode rfl rfl)
  | copyNode as source id => exact yields_bind fun n _ => yields_ok (hs.makeNode rfl rfl)
  | node h st => exact yields_bind fun n _ => hs.runNode n st
  | newEdge as source target depth =>
    refine yields_bind fun a ha => yields_bind fun b hb => ?_
    have hends (depth : Nat) : ∀ n ∈ { Edge.plain a b with depth }.nodes,
        n.index < s.workspace.store.nodes.size := by
      intro n hn
      rcases List.mem_cons.mp hn with rfl | hn
      · exact hs.given source n ha
      · rw [List.mem_singleton.mp hn]
        exact hs.given target b hb
    cases depth with
    | none =>
      exact yields_ok (hs.insertOther rfl rfl (hs.store.newEdge (hends 0)) (Nat.le_refl _))
    | some d =>
      exact yields_bind fun d _ =>
        yields_ok (hs.insertOther rfl rfl (hs.store.newEdge (hends d)) (Nat.le_refl _))
  | edge h st => exact yields_bind fun e _ => hs.runEdge e st
  | newClass | newLink | newDirective | newGenerator =>
    exact yields_ok (hs.insertAside rfl rfl rfl rfl rfl)
  | copyClass | copyLink | aliasChart | nextName | nextNames =>
    exact yields_bind fun _ _ => yields_ok (hs.insertAside rfl rfl rfl rfl rfl)
  | classStyle h st => exact yields_bind fun k _ => hs.runClass k st
  | link h st => exact yields_bind fun l _ => hs.runLink h l st
  | directive h st => exact yields_bind fun d _ => hs.runDirective d st
  | newChart as =>
    have hnone (name : String) : ∀ n ∈ ({ name } : Chart).nodes,
        n.index < s.workspace.store.nodes.size := fun n hn => absurd hn List.not_mem_nil
    exact yields_ok (hs.insertOther rfl rfl (Workspace.closed_addChart hs.store (hnone _))
      (Nat.le_refl _))
  | copyChart as source =>
    exact yields_bind fun c _ => yields_ok (hs.insertOther rfl rfl
      (Workspace.closed_addChart hs.store (hs.store.members c)) (Nat.le_refl _))
  | buildChart as machine styles =>
    refine yields_bind fun m _ => yields_bind fun t _ => yields_bind fun built hbuilt => ?_
    have hclosed := yields_checked (Workspace.closed_buildChart hs.store m t) built hbuilt
    have hchanges := yields_checked
      (@Workspace.yields_buildChart (fun _ => False) s.workspace m t) built hbuilt
    exact yields_ok (hs.insertOther rfl rfl hclosed hchanges.2.changes.size_nodes_le)
  | chart h st => exact yields_bind fun c _ => hs.runChart horderly c st
  | query h query => exact yields_bind fun c _ => yields_ok (hs.runQuery c query)
  | render h =>
    refine yields_bind fun c _ => ?_
    split
    · next hrender =>
      obtain ⟨_, _, heq⟩ := Option.map_eq_some_iff.mp hrender
      cases heq
      exact yields_ok (hs.keep rfl rfl rfl rfl)
    · exact yields_error _
  | same a b => exact yields_bind fun _ _ => yields_bind fun _ _ => yields_ok hs

theorem Closed.step (hs : s.Closed) (horderly : s.Orderly) (st : Step) :
    (s.step st).1.Closed := by
  rw [Session.step]
  cases hrun : s.run st with
  | error f => exact hs
  | ok p => exact hs.run horderly st p hrun

theorem Closed.runAll (hs : s.Closed) (horderly : s.Orderly) (steps : List Step) :
    (s.runAll steps).1.Closed := by
  induction steps generalizing s with
  | nil => exact hs
  | cons st steps ih => exact ih (hs.step horderly st) (horderly.step st)

end Session

end Flowchart
