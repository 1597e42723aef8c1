import Flowchart.Proofs.Firsts
import Flowchart.Proofs.Steps

/-!
# What joins a chart

Of the things that are to join a chart, those join that it does not hold yet, each once and in the
order of first appearance; an edge brings the nodes of its ends along, and a subgraph its nodes and
its class styles. So the lists of a chart only grow at their ends (`Chart.Grows`) and hold nothing
twice, and a chart is no subgraph of itself (`Chart.Distinct`).
-/

namespace Flowchart

/-! ## Adding to a chart -/

namespace Chart

variable (s : Store) (self : ChartId) (c : Chart)

theorem addNodes_eq (ns : List NodeId) :
    c.addNodes ns = { c with nodes := c.nodes ++ newcomers c.nodes ns } := by
  rw [addNodes, withMembers_eq]

theorem addClasses_eq (ks : List ClassId) :
    c.addClasses ks = { c with classes := c.classes ++ newcomers c.classes ks } := by
  rw [addClasses, withMembers_eq]

theorem addDirectives_eq (ds : List DirectiveId) :
    c.addDirectives ds = { c with directives := c.directives ++ newcomers c.directives ds } := by
  rw [addDirectives, withMembers_eq]

/-- Each edge that is new to the chart brings along the nodes of its ends that are new by then. -/
theorem addEdges_eq (es : List EdgeId) :
    c.addEdges s es = { c with
      nodes := c.nodes
        ++ newcomers c.nodes ((newcomers c.edges es).flatMap fun e => (s.edge e).nodes)
      edges := c.edges ++ newcomers c.edges es } := by
  induction es using List.reverseRecOn with
  | nil => simp [addEdges, newcomers, firstsBy]
  | append_singleton es e ih =>
    have hstep : c.addEdges s (es ++ [e]) = addEdge s (c.addEdges s es) e := by
      rw [addEdges, List.foldl_append]
      rfl
    rw [hstep, ih, newcomers_append, addEdge]
    by_cases he : e ∈ c.edges ++ newcomers c.edges es
    · rw [if_pos he, newcomers_singleton_of_mem he, List.append_nil]
    · rw [if_neg he, newcomers_singleton_of_not_mem he, List.flatMap_append, newcomers_append,
        withMembers_eq, List.append_assoc, List.append_assoc, List.flatMap_singleton]

/-- Each subgraph that is new to the chart brings along its nodes and its class styles that are new
by then. -/
theorem addSubgraphs_eq (cs : List ChartId) :
    c.addSubgraphs s self cs = { c with
      nodes := c.nodes ++ newcomers c.nodes
        ((newcomers c.subgraphs (cs.filter (· ≠ self))).flatMap fun d => (s.chart d).nodes)
      classes := c.classes ++ newcomers c.classes
        ((newcomers c.subgraphs (cs.filter (· ≠ self))).flatMap fun d => (s.chart d).classes)
      subgraphs := c.subgraphs ++ newcomers c.subgraphs (cs.filter (· ≠ self)) } := by
  induction cs using List.reverseRecOn with
  | nil => simp [addSubgraphs, newcomers, firstsBy]
  | append_singleton cs d ih =>
    have hstep : c.addSubgraphs s self (cs ++ [d])
        = addSubgraph s self (c.addSubgraphs s self cs) d := by
      rw [addSubgraphs, List.foldl_append]
      rfl
    rw [hstep, ih, List.filter_append, addSubgraph]
    by_cases hself : d = self
    · rw [if_pos (.inl hself), List.filter_cons_of_neg (by simpa using hself), List.filter_nil,
        List.append_nil]
    rw [List.filter_cons_of_pos (by simpa using hself), List.filter_nil, newcomers_append]
    by_cases hd : d ∈ c.subgraphs ++ newcomers c.subgraphs (cs.filter (· ≠ self))
    · rw [if_pos (.inr hd), newcomers_singleton_of_mem hd, List.append_nil]
    · rw [if_neg (not_or.mpr ⟨hself, hd⟩), newcomers_singleton_of_not_mem hd, List.flatMap_append,
        List.flatMap_append, newcomers_append, newcomers_append, withMembers_eq, withMembers_eq,
        List.append_assoc, List.append_assoc, List.append_assoc, List.flatMap_singleton,
        List.flatMap_singleton]

/-! ## What a change of a chart joins -/

variable {s self c} {given joins : Thing → Prop} {f : Chart → Chart}

/-- A chart that is another one, which stands at a place, with more members. The edges and the
subgraphs among these may join it, and no subgraph is the chart itself. -/
structure Joined (joins : Thing → Prop) (place : ChartId) (a b : Chart) : Prop where
  nodes : ∃ ns, b.nodes = withMembers a.nodes ns
  edges : ∃ es, b.edges = withMembers a.edges es ∧ ∀ e ∈ es, joins (.edge e)
  classes : ∃ ks, b.classes = withMembers a.classes ks
  directives : ∃ ds, b.directives = withMembers a.directives ds
  subgraphs : ∃ cs, b.subgraphs = withMembers a.subgraphs cs ∧
    ∀ d ∈ cs, joins (.chart d) ∧ d ≠ place

theorem Joined.refl (c : Chart) : c.Joined joins self c :=
  ⟨⟨[], rfl⟩, ⟨[], rfl, List.forall_mem_nil _⟩, ⟨[], rfl⟩, ⟨[], rfl⟩,
    ⟨[], rfl, List.forall_mem_nil _⟩⟩

theorem withMembers_append {α : Type} [DecidableEq α] (xs ys zs : List α) :
    withMembers (withMembers xs ys) zs = withMembers xs (ys ++ zs) :=
  List.foldl_append.symm

theorem Joined.trans {a b c : Chart} (h : a.Joined joins self b) (h' : b.Joined joins self c) :
    a.Joined joins self c := by
  obtain ⟨⟨ns, hns⟩, ⟨es, hes, hjoin⟩, ⟨ks, hks⟩, ⟨ds, hds⟩, ⟨cs, hcs, hsub⟩⟩ := h
  obtain ⟨⟨ns', hns'⟩, ⟨es', hes', hjoin'⟩, ⟨ks', hks'⟩, ⟨ds', hds'⟩, ⟨cs', hcs', hsub'⟩⟩ := h'
  refine ⟨⟨ns ++ ns', ?_⟩, ⟨es ++ es', ?_, List.forall_mem_append.mpr ⟨hjoin, hjoin'⟩⟩,
    ⟨ks ++ ks', ?_⟩, ⟨ds ++ ds', ?_⟩, ⟨cs ++ cs', ?_, List.forall_mem_append.mpr ⟨hsub, hsub'⟩⟩⟩
  · rw [hns', hns, withMembers_append]
  · rw [hes', hes, withMembers_append]
  · rw [hks', hks, withMembers_append]
  · rw [hds', hds, withMembers_append]
  · rw [hcs', hcs, withMembers_append]

/-- Whatever changes a chart, members join it. -/
theorem Change.joined (h : Chart.Change given s self f) (c : Chart) :
    c.Joined (s.Joinable given) self (f c) := by
  induction h generalizing c with
  | addNodes ns => exact { Joined.refl c with nodes := ⟨ns, rfl⟩ }
  | addClasses ks => exact { Joined.refl c with classes := ⟨ks, rfl⟩ }
  | addDirectives ds => exact { Joined.refl c with directives := ⟨ds, rfl⟩ }
  | addEdges hes =>
    have hrefl : c.Joined (s.Joinable given) self c := .refl c
    simp only [addEdges_eq, ← withMembers_eq]
    exact { hrefl with nodes := ⟨_, rfl⟩, edges := ⟨_, rfl, hes⟩ }
  | @addSubgraphs cs hcs =>
    have hrefl : c.Joined (s.Joinable given) self c := .refl c
    simp only [addSubgraphs_eq, ← withMembers_eq]
    refine { hrefl with
             nodes := ⟨_, rfl⟩, classes := ⟨_, rfl⟩
             subgraphs := ⟨cs.filter (· ≠ self), rfl, fun d hd => ?_⟩ }
    obtain ⟨hmem, hne⟩ := List.mem_filter.mp hd
    exact ⟨hcs d hmem, of_decide_eq_true hne⟩
  | settings same =>
    obtain ⟨hnodes, hedges, hclasses, hdirectives, hsubgraphs⟩ := same c
    exact ⟨⟨[], hnodes⟩, ⟨[], hedges, List.forall_mem_nil _⟩, ⟨[], hclasses⟩, ⟨[], hdirectives⟩,
      ⟨[], hsubgraphs, List.forall_mem_nil _⟩⟩
  | comp _ _ ih ih' => exact (ih c).trans (ih' _)

/-! ## Lists that only grow and hold nothing twice -/

/-- A chart whose lists begin with the lists of another one. -/
structure Grows (a b : Chart) : Prop where
  nodes : a.nodes <+: b.nodes
  edges : a.edges <+: b.edges
  classes : a.classes <+: b.classes
  directives : a.directives <+: b.directives
  subgraphs : a.subgraphs <+: b.subgraphs

theorem Grows.refl (c : Chart) : c.Grows c :=
  ⟨List.prefix_rfl, List.prefix_rfl, List.prefix_rfl, List.prefix_rfl, List.prefix_rfl⟩

theorem Grows.trans {a b c : Chart} (h : a.Grows b) (h' : b.Grows c) : a.Grows c where
  nodes := h.nodes.trans h'.nodes
  edges := h.edges.trans h'.edges
  classes := h.classes.trans h'.classes
  directives := h.directives.trans h'.directives
  subgraphs := h.subgraphs.trans h'.subgraphs

theorem Joined.grows {a b : Chart} (h : a.Joined joins self b) : a.Grows b := by
  obtain ⟨⟨ns, hns⟩, ⟨es, hes, -⟩, ⟨ks, hks⟩, ⟨ds, hds⟩, ⟨cs, hcs, -⟩⟩ := h
  exact ⟨hns ▸ prefix_withMembers _ ns, hes ▸ prefix_withMembers _ es,
    hks ▸ prefix_withMembers _ ks, hds ▸ prefix_withMembers _ ds, hcs ▸ prefix_withMembers _ cs⟩

/-- A chart that stands at a place and holds nothing twice, nor itself. -/
structure Distinct (place : ChartId) (c : Chart) : Prop where
  nodes : c.nodes.Nodup
  edges : c.edges.Nodup
  classes : c.classes.Nodup
  directives : c.directives.Nodup
  subgraphs : c.subgraphs.Nodup
  not_self : place ∉ c.subgraphs

theorem Joined.distinct {a b : Chart} (h : a.Joined joins self b) (ha : a.Distinct self) :
    b.Distinct self := by
  obtain ⟨⟨ns, hns⟩, ⟨es, hes, -⟩, ⟨ks, hks⟩, ⟨ds, hds⟩, ⟨cs, hcs, hsub⟩⟩ := h
  refine ⟨hns ▸ nodup_withMembers ha.nodes ns, hes ▸ nodup_withMembers ha.edges es,
    hks ▸ nodup_withMembers ha.classes ks, hds ▸ nodup_withMembers ha.directives ds,
    hcs ▸ nodup_withMembers ha.subgraphs cs, fun hself => ?_⟩
  rw [hcs, mem_withMembers] at hself
  exact hself.elim ha.not_self fun hmem => (hsub self hmem).2 rfl

theorem Joined.mem_edges {a b : Chart} (h : a.Joined joins self b) {e : EdgeId}
    (he : e ∈ b.edges) : e ∈ a.edges ∨ joins (.edge e) := by
  obtain ⟨es, hes, hjoin⟩ := h.edges
  rw [hes, mem_withMembers] at he
  exact he.imp_right (hjoin e)

theorem Joined.mem_subgraphs {a b : Chart} (h : a.Joined joins self b) {d : ChartId}
    (hd : d ∈ b.subgraphs) : d ∈ a.subgraphs ∨ joins (.chart d) := by
  obtain ⟨cs, hcs, hsub⟩ := h.subgraphs
  rw [hcs, mem_withMembers] at hd
  exact hd.imp_right fun hmem => (hsub d hmem).1

end Chart

/-! ## Charts in a workspace -/

namespace Workspace

variable {given : Thing → Prop} {w after : Workspace}

theorem chart_updateChart (w : Workspace) (c : ChartId) (f : Chart → Chart) (d : ChartId) :
    (w.updateChart c f).store.chart d
      = if d = c ∧ c.index < w.store.charts.size then f (w.store.chart c)
        else w.store.chart d := by
  by_cases hd : d = c
  · subst hd
    by_cases hlt : d.index < w.store.charts.size
    · rw [if_pos ⟨rfl, hlt⟩, chart_updateChart_self hlt]
    · rw [if_neg (fun h => hlt h.2)]
      exact congrArg (fun charts : Shelf Chart => charts.get d.index)
        (Shelf.set_of_size_le (Nat.le_of_not_lt hlt) _)
  · rw [if_neg (fun h => hd h.1)]
    exact Shelf.get_set_of_ne _ (fun h => hd (congrArg ChartId.mk h)) _

theorem chart_addChart (w : Workspace) (x : Chart) (d : ChartId) :
    (w.addChart x).2.store.chart d
      = if d.index = w.store.charts.size then x else w.store.chart d :=
  Shelf.get_push _ _ _

/-- Charts are never taken away. -/
theorem Change.size_le (h : w.Change given after) :
    w.store.charts.size ≤ after.store.charts.size := by
  cases h with
  | addChart | copyChart => exact (Shelf.size_push _ _).symm ▸ Nat.le_succ _
  | updateChart => exact (Shelf.size_set _ _ _).symm ▸ Nat.le_refl _
  | _ => exact Nat.le_refl _

/-- Nor are edges. -/
theorem Change.size_edges_le (h : w.Change given after) :
    w.store.edges.size ≤ after.store.edges.size := by
  cases h with
  | addEdge => exact (Shelf.size_push _ _).symm ▸ Nat.le_succ _
  | _ => exact Nat.le_refl _

/-- Nor are nodes. -/
theorem Change.size_nodes_le (h : w.Change given after) :
    w.store.nodes.size ≤ after.store.nodes.size := by
  cases h with
  | addNode => exact (Shelf.size_push _ _).symm ▸ Nat.le_succ _
  | _ => exact Nat.le_refl _

/-- A node that is there stays as it is. -/
theorem Change.node_eq (h : w.Change given after) {n : NodeId}
    (hn : n.index < w.store.nodes.size) : after.store.node n = w.store.node n := by
  cases h with
  | addNode x => exact Store.node_newNode_of_lt hn x
  | _ => rfl

/-- An edge that is there stays as it is. -/
theorem Change.edge_eq (h : w.Change given after) {e : EdgeId}
    (he : e.index < w.store.edges.size) : after.store.edge e = w.store.edge e := by
  cases h with
  | addEdge x => exact Store.edge_newEdge_of_lt he x
  | _ => rfl

/-- A change lets members join a chart, or adds a chart that is empty or a copy. -/
theorem Change.chart_cases (h : w.Change given after) (c : ChartId) :
    (w.store.chart c).Joined (w.store.Joinable given) c (after.store.chart c) ∨
      c.index = w.store.charts.size ∧
        ((∃ name, after.store.chart c = { name }) ∨
          ∃ d, after.store.chart c = w.store.chart d) := by
  cases h with
  | addChart name =>
    rw [chart_addChart]
    split
    · next hc => exact .inr ⟨hc, .inl ⟨name, rfl⟩⟩
    · exact .inl (.refl _)
  | copyChart d =>
    rw [Workspace.copyChart, chart_addChart]
    split
    · next hc => exact .inr ⟨hc, .inr ⟨d, rfl⟩⟩
    · exact .inl (.refl _)
  | updateChart d h =>
    rw [chart_updateChart]
    split
    · next hc =>
      rw [hc.1]
      exact .inl (h.joined _)
    · exact .inl (.refl _)
  | _ => exact .inl (.refl _)

theorem Change.grows (h : w.Change given after) (c : ChartId) :
    (w.store.chart c).Grows (after.store.chart c) := by
  rcases h.chart_cases c with hjoined | ⟨hc, -⟩
  · exact hjoined.grows
  · -- There is no chart at the place of the new one yet.
    have hnone : w.store.chart c = default := Shelf.get_of_size_le (Nat.le_of_eq hc.symm)
    rw [hnone]
    exact ⟨List.nil_prefix, List.nil_prefix, List.nil_prefix, List.nil_prefix, List.nil_prefix⟩

theorem Changes.grows (h : w.Changes given after) (c : ChartId) :
    (w.store.chart c).Grows (after.store.chart c) := by
  induction h with
  | refl => exact .refl _
  | tail _ h ih => exact ih.trans (h.grows c)

theorem Changes.size_le (h : w.Changes given after) :
    w.store.charts.size ≤ after.store.charts.size := by
  induction h with
  | refl => exact Nat.le_refl _
  | tail _ h ih => exact Nat.le_trans ih h.size_le

theorem Changes.size_edges_le (h : w.Changes given after) :
    w.store.edges.size ≤ after.store.edges.size := by
  induction h with
  | refl => exact Nat.le_refl _
  | tail _ h ih => exact Nat.le_trans ih h.size_edges_le

theorem Changes.size_nodes_le (h : w.Changes given after) :
    w.store.nodes.size ≤ after.store.nodes.size := by
  induction h with
  | refl => exact Nat.le_refl _
  | tail _ h ih => exact Nat.le_trans ih h.size_nodes_le

theorem Changes.node_eq (h : w.Changes given after) {n : NodeId}
    (hn : n.index < w.store.nodes.size) : after.store.node n = w.store.node n := by
  induction h with
  | refl => rfl
  | tail hmid h ih =>
    have hlt := Nat.lt_of_lt_of_le hn (Changes.size_nodes_le hmid)
    rw [h.node_eq hlt, ih]

theorem Changes.edge_eq (h : w.Changes given after) {e : EdgeId}
    (he : e.index < w.store.edges.size) : after.store.edge e = w.store.edge e := by
  induction h with
  | refl => rfl
  | tail hmid h ih =>
    have hlt := Nat.lt_of_lt_of_le he (Changes.size_edges_le hmid)
    rw [h.edge_eq hlt, ih]

/-! ### Places of new charts -/

theorem index_newChart_lt (w : Workspace) :
    w.newChart.1.index < w.newChart.2.store.charts.size :=
  (Shelf.size_push _ _).symm ▸ Nat.lt_succ_self _

theorem index_copyChart_lt (w : Workspace) (c : ChartId) :
    (w.copyChart c).1.index < (w.copyChart c).2.store.charts.size :=
  (Shelf.size_push _ _).symm ▸ Nat.lt_succ_self _

theorem yields_index_buildChart (w : Workspace) (m : Machine) (t : StyleTable) :
    Yields (w.buildChart m t) fun built => built.1.index < built.2.store.charts.size := by
  intro built hbuilt
  let installed : Workspace := { w with store := (t.install w.store).2 }
  obtain ⟨hnew, hchanges⟩ : built.1 = installed.newChart.1 ∧
      installed.newChart.2.ChangesAt (fun _ => False) built.1 built.2 :=
    yields_drawMachine installed m _ built hbuilt
  rw [hnew]
  exact Nat.lt_of_lt_of_le (index_newChart_lt installed) hchanges.changes.size_le

end Workspace

/-! ## Stores in order -/

/-- An edge or a chart that is there; other things need not be. -/
def Thing.Placed (s : Store) : Thing → Prop
  | .edge e => e.index < s.edges.size
  | .chart c => c.index < s.charts.size
  | _ => True

/-- A store whose charts hold nothing twice, nor themselves, and only edges and subgraphs that there
are. -/
structure Store.Orderly (s : Store) : Prop where
  distinct : ∀ c, (s.chart c).Distinct c
  edges : ∀ c, ∀ e ∈ (s.chart c).edges, e.index < s.edges.size
  placed : ∀ c, ∀ d ∈ (s.chart c).subgraphs, d.index < s.charts.size

theorem Store.orderly_empty : ({} : Store).Orderly where
  distinct _ := ⟨.nil, .nil, .nil, .nil, .nil, List.not_mem_nil⟩
  edges _ _ he := absurd he List.not_mem_nil
  placed _ _ hd := absurd hd List.not_mem_nil

theorem Store.chart_eq_of_charts_eq {a b : Store} (h : b.charts = a.charts) : b.chart = a.chart :=
  funext fun c => congrArg (Shelf.get · c.index) h

/-- Whether a store is in order depends on its charts and on how many edges there are. -/
theorem Store.Orderly.congr {a b : Store} (h : a.Orderly) (hcharts : b.charts = a.charts)
    (hedges : b.edges.size = a.edges.size) : b.Orderly := by
  have hchart : b.chart = a.chart := chart_eq_of_charts_eq hcharts
  refine ⟨?_, ?_, ?_⟩
  · rw [hchart]
    exact h.distinct
  · rw [hchart, hedges]
    exact h.edges
  · rw [hchart, hcharts]
    exact h.placed

namespace Workspace

variable {given : Thing → Prop} {scope : Scope} {w after : Workspace}

theorem Change.placed (h : w.Change given after) {x : Thing} (hx : x.Placed w.store) :
    x.Placed after.store := by
  cases x with
  | edge e => exact Nat.lt_of_lt_of_le hx h.size_edges_le
  | chart c => exact Nat.lt_of_lt_of_le hx h.size_le
  | _ => trivial

theorem Changes.placed (h : w.Changes given after) {x : Thing} (hx : x.Placed w.store) :
    x.Placed after.store := by
  induction h with
  | refl => exact hx
  | tail _ h ih => exact h.placed ih

theorem Change.orderly (h : w.Change given after) (hw : w.store.Orderly)
    (hgiven : ∀ x, given x → x.Placed w.store) : after.store.Orderly := by
  refine ⟨fun c => ?_, fun c e he => ?_, fun c d hd => ?_⟩
  · rcases h.chart_cases c with hjoined | ⟨hc, ⟨name, hnew⟩ | ⟨d, hcopy⟩⟩
    · exact hjoined.distinct (hw.distinct c)
    · rw [hnew]
      exact ⟨.nil, .nil, .nil, .nil, .nil, List.not_mem_nil⟩
    · -- The copy has the members of the original, which were there before the copy.
      rw [hcopy]
      exact { hw.distinct d with not_self := fun hmem => Nat.ne_of_lt (hw.placed d c hmem) hc }
  · refine Nat.lt_of_lt_of_le ?_ h.size_edges_le
    rcases h.chart_cases c with hjoined | ⟨-, ⟨name, hnew⟩ | ⟨d, hcopy⟩⟩
    · exact (hjoined.mem_edges he).elim (hw.edges c e) fun h => h.elim (hgiven _) id
    · rw [hnew] at he
      exact absurd he List.not_mem_nil
    · rw [hcopy] at he
      exact hw.edges d e he
  · refine Nat.lt_of_lt_of_le ?_ h.size_le
    rcases h.chart_cases c with hjoined | ⟨-, ⟨name, hnew⟩ | ⟨e, hcopy⟩⟩
    · exact (hjoined.mem_subgraphs hd).elim (hw.placed c d) (hgiven _)
    · rw [hnew] at hd
      exact absurd hd List.not_mem_nil
    · rw [hcopy] at hd
      exact hw.placed e d hd

theorem Changes.orderly (h : w.Changes given after) (hw : w.store.Orderly)
    (hgiven : ∀ x, given x → x.Placed w.store) : after.store.Orderly := by
  induction h with
  | refl => exact hw
  | tail hmid h ih => exact h.orderly ih fun x hx => Changes.placed hmid (hgiven x hx)

/-- A move works on one chart, or copies one, or leaves the charts as they are and as many edges. -/
theorem Move.charts_cases (h : w.Move scope after) :
    (∃ c, (scope.works c ∨ w.store.charts.size ≤ c.index) ∧ w.ChangesAt scope.given c after) ∨
      (∃ c, scope.copies c ∧ after = (w.copyChart c).2) ∨
      after.store.charts = w.store.charts ∧ after.store.edges.size = w.store.edges.size := by
  cases h with
  | changes hc h => exact .inl ⟨_, hc, h⟩
  | copyChart h => exact .inr (.inl ⟨_, h, rfl⟩)
  | updateEdge => exact .inr (.inr ⟨rfl, Shelf.size_set _ _ _⟩)
  | render h =>
    obtain ⟨_, _, heq⟩ := Option.map_eq_some_iff.mp h
    cases heq
    exact .inr (.inr ⟨rfl, rfl⟩)
  | _ => exact .inr (.inr ⟨rfl, rfl⟩)

/-- A move that makes no changes in a row leaves the charts as they are, and there are as many edges
after it. -/
theorem Move.changes_or_charts_eq (h : w.Move scope after) :
    w.Changes scope.given after ∨
      after.store.charts = w.store.charts ∧ after.store.edges.size = w.store.edges.size := by
  rcases h.charts_cases with ⟨c, -, hchanges⟩ | ⟨c, -, rfl⟩ | hsame
  · exact .inl hchanges.changes
  · exact .inl (Relation.ReflTransGen.single (.copyChart c))
  · exact .inr hsame

/-- Changes of one chart leave the other charts that there are as they are. -/
theorem ChangeAt.chart_eq {c d : ChartId} (h : w.ChangeAt given c after) (hne : d ≠ c)
    (hd : d.index < w.store.charts.size) : after.store.chart d = w.store.chart d := by
  cases h with
  | aside _ hcharts => rw [Store.chart_eq_of_charts_eq hcharts]
  | addChart name => rw [chart_addChart, if_neg (Nat.ne_of_lt hd)]
  | updateChart _ => rw [chart_updateChart, if_neg fun heq => hne heq.1]

theorem ChangesAt.chart_eq {c d : ChartId} (h : w.ChangesAt given c after) (hne : d ≠ c)
    (hd : d.index < w.store.charts.size) : after.store.chart d = w.store.chart d := by
  induction h with
  | refl => rfl
  | tail hmid h ih =>
    have hlt := Nat.lt_of_lt_of_le hd (ChangesAt.changes hmid).size_le
    rw [h.chart_eq hne hlt, ih]

/-- A chart that is there and that a step does not work on stays as it is. -/
theorem Move.chart_eq (h : w.Move scope after) {d : ChartId} (hd : d.index < w.store.charts.size)
    (hnot : ¬ scope.works d) : after.store.chart d = w.store.chart d := by
  rcases h.charts_cases with ⟨c, hc, hchanges⟩ | ⟨c, -, rfl⟩ | ⟨hcharts, -⟩
  · refine hchanges.chart_eq ?_ hd
    rintro rfl
    exact hc.elim hnot (Nat.not_le_of_lt hd)
  · rw [Workspace.copyChart, chart_addChart, if_neg (Nat.ne_of_lt hd)]
  · rw [Store.chart_eq_of_charts_eq hcharts]

theorem Move.placed (h : w.Move scope after) {x : Thing} (hx : x.Placed w.store) :
    x.Placed after.store := by
  rcases h.changes_or_charts_eq with hchanges | ⟨hcharts, hedges⟩
  · exact hchanges.placed hx
  · cases x with
    | edge e => exact Nat.lt_of_lt_of_eq hx hedges.symm
    | chart c => exact Nat.lt_of_lt_of_eq hx (congrArg Shelf.size hcharts.symm)
    | _ => trivial

theorem Move.orderly (h : w.Move scope after) (hw : w.store.Orderly)
    (hgiven : ∀ x, scope.given x → x.Placed w.store) : after.store.Orderly := by
  rcases h.changes_or_charts_eq with hchanges | ⟨hcharts, hedges⟩
  · exact hchanges.orderly hw hgiven
  · exact hw.congr hcharts hedges

theorem Move.grows (h : w.Move scope after) (c : ChartId) :
    (w.store.chart c).Grows (after.store.chart c) := by
  rcases h.changes_or_charts_eq with hchanges | ⟨hcharts, -⟩
  · exact hchanges.grows c
  · rw [Store.chart_eq_of_charts_eq hcharts]
    exact .refl _

end Workspace

end Flowchart
