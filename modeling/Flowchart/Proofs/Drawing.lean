import Flowchart.Proofs.Vertices

/-!
# What has been drawn of a machine

`Drawn` says what the store and the chart hold where some vertices and transitions of a machine
have been drawn. It has one lemma for each operation (`Drawn.addNode`, `Drawn.addEdge`,
`Drawn.updateChart`).
-/

namespace Flowchart

/-! ## The edges of a machine -/

namespace Machine

section

variable (m : Machine) (w : Workspace)

/-- The edges of the first transitions, if a machine is drawn in a workspace. -/
def arcRefs (n : Nat) : List EdgeId :=
  (List.range n).map fun i => ⟨w.store.edges.size + i⟩

/-- The edge of a transition. -/
def arcEdge (line : LineStyle) (a : Arc) : Edge :=
  { Edge.arrowTo (m.vertexRef w (m.vertex a.state)) (m.vertexRef w (m.vertex a.transition.target))
      with line, label := a.transition.description }

end

variable {m : Machine} {w : Workspace}

theorem mem_arcRefs {n : Nat} {e : EdgeId} (h : e ∈ arcRefs w n) :
    e.index < w.store.edges.size + n := by
  obtain ⟨i, hi, rfl⟩ := List.mem_map.mp h
  have := List.mem_range.mp hi
  show w.store.edges.size + i < _
  omega

theorem mem_arcRefs_of_le {n : Nat} {e : EdgeId} (hle : w.store.edges.size ≤ e.index)
    (hlt : e.index < w.store.edges.size + n) : e ∈ arcRefs w n := by
  refine List.mem_map.mpr ⟨e.index - w.store.edges.size, List.mem_range.mpr (by omega), ?_⟩
  exact congrArg EdgeId.mk (Nat.add_sub_cancel' hle)

theorem arcRefs_succ (n : Nat) :
    arcRefs w (n + 1) = arcRefs w n ++ [⟨w.store.edges.size + n⟩] := by
  rw [arcRefs, List.range_succ, List.map_append]
  rfl

/-- What stands between the ends of a transition. -/
theorem middle_arcEdge (line : LineStyle) (a : Arc) :
    (m.arcEdge w line a).middle = " " ++ line.arrow ++ a.transition.label := by
  have hconnector : (m.arcEdge w line a).connector = line.arrow := by
    cases line with
    | solid | thick => rfl
    | dotted =>
      have hlength : (m.arcEdge w .dotted a).lineLength = 3 := by
        simp [Edge.lineLength, arcEdge, Edge.arrowTo]
      rw [Edge.connector, Edge.body, hlength]
      rfl
  rw [Edge.middle, hconnector]
  rfl

end Machine

/-! ## What has been drawn -/

/-- What a workspace holds where some vertices and transitions of a machine have been drawn into
it, with a chart that is what it is by now. Nothing else is new. -/
structure Drawn (m : Machine) (rules : InstalledTable) (line : LineStyle) (w : Workspace)
    (c : ChartId) (vs : List Vertex) (as : List Arc) (chart : Chart) (x : Workspace) : Prop where
  size_nodes : x.store.nodes.size = w.store.nodes.size + vs.length
  size_edges : x.store.edges.size = w.store.edges.size + as.length
  node_ref : ∀ v ∈ vs, x.store.node (m.vertexRef w v) = m.vertexNode rules v
  index_ref : ∀ v ∈ vs, (m.vertexRef w v).index < x.store.nodes.size
  map_edge : (Machine.arcRefs w as.length).map x.store.edge = as.map (m.arcEdge w line)
  index_lt : c.index < x.store.charts.size
  chart_eq : x.store.chart c = chart
  classes_eq : x.store.classes = w.store.classes
  directives_eq : x.store.directives = w.store.directives
  seen_eq : x.seen = w.seen

namespace Drawn

variable {m : Machine} {rules : InstalledTable} {line : LineStyle} {w x : Workspace} {c : ChartId}
  {vs rest : List Vertex} {as : List Arc} {chart : Chart} {v : Vertex} {a : Arc}

/-- Changing the chart. -/
theorem updateChart (h : Drawn m rules line w c vs as chart x) (f : Chart → Chart) :
    Drawn m rules line w c vs as (f chart) (x.updateChart c f) where
  size_nodes := h.size_nodes
  size_edges := h.size_edges
  node_ref := h.node_ref
  index_ref := h.index_ref
  map_edge := h.map_edge
  index_lt := by
    rw [Workspace.size_charts_updateChart]
    exact h.index_lt
  chart_eq := by
    rw [Workspace.chart_updateChart_self h.index_lt, h.chart_eq]
  classes_eq := h.classes_eq
  directives_eq := h.directives_eq
  seen_eq := h.seen_eq

/-- Adding the node of the vertex that is next. -/
theorem addNode (h : Drawn m rules line w c vs as chart x) (hnext : m.vertices = vs ++ v :: rest)
    (hv : v ∉ vs) :
    (x.addNode (m.vertexNode rules v)).1 = m.vertexRef w v ∧
      Drawn m rules line w c (vs ++ [v]) as chart (x.addNode (m.vertexNode rules v)).2 := by
  have href : (x.addNode (m.vertexNode rules v)).1 = m.vertexRef w v := by
    rw [Machine.vertexRef_of_vertices_eq hnext hv, ← h.size_nodes]
    rfl
  have hsize : (x.addNode (m.vertexNode rules v)).2.store.nodes.size = x.store.nodes.size + 1 :=
    Shelf.size_push _ _
  refine ⟨href, ?_⟩
  exact
    { size_nodes := by
        rw [hsize, h.size_nodes, List.length_append, List.length_singleton, Nat.add_assoc]
      size_edges := h.size_edges
      node_ref := by
        intro u hu
        rcases List.mem_append.mp hu with hu | hu
        · rw [← h.node_ref u hu]
          exact Store.node_newNode_of_lt (h.index_ref u hu) _
        · rw [List.mem_singleton.mp hu, ← href]
          exact Store.node_newNode_self _ _
      index_ref := by
        intro u hu
        rw [hsize]
        rcases List.mem_append.mp hu with hu | hu
        · exact Nat.lt_succ_of_lt (h.index_ref u hu)
        · rw [List.mem_singleton.mp hu, ← href]
          exact Nat.lt_succ_self _
      map_edge := h.map_edge
      index_lt := h.index_lt
      chart_eq := h.chart_eq
      classes_eq := h.classes_eq
      directives_eq := h.directives_eq
      seen_eq := h.seen_eq }

/-- Adding the edge of the transition that is next. -/
theorem addEdge (h : Drawn m rules line w c vs as chart x) :
    (x.addEdge (m.arcEdge w line a)).1 = ⟨w.store.edges.size + as.length⟩ ∧
      Drawn m rules line w c vs (as ++ [a]) chart (x.addEdge (m.arcEdge w line a)).2 := by
  have href : (x.addEdge (m.arcEdge w line a)).1 = ⟨w.store.edges.size + as.length⟩ := by
    rw [← h.size_edges]
    rfl
  refine ⟨href, ?_⟩
  exact
    { size_nodes := h.size_nodes
      size_edges := by
        rw [List.length_append, List.length_singleton, ← Nat.add_assoc, ← h.size_edges]
        exact Shelf.size_push _ _
      node_ref := h.node_ref
      index_ref := h.index_ref
      map_edge := by
        rw [List.length_append, List.length_singleton, Machine.arcRefs_succ, List.map_append,
          List.map_append, ← h.map_edge]
        congr 1
        · apply List.map_congr_left
          intro e he
          have hlt := Machine.mem_arcRefs he
          rw [← h.size_edges] at hlt
          exact Store.edge_newEdge_of_lt hlt _
        · rw [List.map_singleton, List.map_singleton, ← href]
          exact congrArg (fun y => [y]) (Store.edge_newEdge_self _ _)
      index_lt := h.index_lt
      chart_eq := h.chart_eq
      classes_eq := h.classes_eq
      directives_eq := h.directives_eq
      seen_eq := h.seen_eq }

/-- Looking for a node by its identifier, as long as the chart holds states only. -/
theorem findNode?_eq {es : List (String × MachineState)}
    (h : Drawn m rules line w c (Machine.stateVertices es) as chart x)
    (hnodes : chart.nodes = (Machine.stateVertices es).map (m.vertexRef w)) (id : String) :
    x.store.findNode? c id
      = if id ∈ es.map Machine.entryId then some (m.vertexRef w (.state id)) else none := by
  -- As long as there are states only, an identifier belongs to one vertex.
  have hid : ∀ u ∈ Machine.stateVertices es,
      ((x.store.node (m.vertexRef w u)).id == id) = true ↔ u = .state id := by
    intro u hu
    rw [h.node_ref u hu, Machine.vertexNode_id, beq_iff_eq]
    obtain ⟨e, -, rfl⟩ := List.mem_map.mp hu
    simp [Vertex.id]
  rw [Store.findNode?, h.chart_eq, hnodes, List.find?_map]
  cases hfind : (Machine.stateVertices es).find?
      ((fun n => (x.store.node n).id == id) ∘ m.vertexRef w) with
  | none =>
    rw [if_neg, Option.map_none]
    intro hmem
    have hu := Machine.state_mem_stateVertices.mpr hmem
    exact List.find?_eq_none.mp hfind _ hu ((hid _ hu).mpr rfl)
  | some u =>
    have hu := List.mem_of_find?_eq_some hfind
    have hp := List.find?_some hfind
    obtain rfl := (hid u hu).mp hp
    rw [if_pos (Machine.state_mem_stateVertices.mp hu), Option.map_some]

end Drawn

end Flowchart
