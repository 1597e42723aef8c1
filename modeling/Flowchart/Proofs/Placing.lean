import Flowchart.Proofs.Drawing

/-!
# Placing states and transitions

`Placed` says where the placement of a machine stands after some of its states and transitions:
what has been drawn, and which node the placement has for a name. It is kept by placing one more
state (`Placed.addState`) and one more transition (`Placed.addArc`), so in the end it holds of the
whole machine (`Placed.addMachine`).
-/

namespace Flowchart

/-! ## The chart -/

namespace Machine

variable (m : Machine) (rules : InstalledTable) (w : Workspace)

/-- What has become of a chart after some states and transitions. -/
def placedChart (start : Chart) (es : List (String × MachineState)) (as : List Arc) : Chart :=
  { start with nodes := (m.placedVertices es as).map (m.vertexRef w)
               edges := arcRefs w as.length
               classes := entryClasses rules es }

variable {m rules w} {start : Chart} {es : List (String × MachineState)}
  {e : String × MachineState} {done restArcs : List Arc} {a : Arc} {line : LineStyle}

/-- The chart stays as it is where the node of a state is there. -/
theorem placedChart_append_of_mem (h : entryId e ∈ es.map entryId) :
    m.placedChart rules w start (es ++ [e]) [] = m.placedChart rules w start es [] := by
  rw [placedChart, placedVertices_nil, stateVertices_append_of_mem h, entryClasses_append_of_mem h,
    placedChart, placedVertices_nil]

/-- The chart once the node of a state and its class join. -/
theorem placedChart_addNodes (h : entryId e ∉ es.map entryId)
    (href : m.vertexRef w (.state (entryId e)) ∉ (stateVertices es).map (m.vertexRef w)) :
    ((m.placedChart rules w start es []).addClasses
        ((rules.forState? e.2).map (·.1)).toList).addNodes [m.vertexRef w (.state (entryId e))]
      = m.placedChart rules w start (es ++ [e]) [] := by
  rw [placedChart, placedChart, placedVertices_nil, placedVertices_nil,
    stateVertices_append_of_not_mem h, entryClasses_append_of_not_mem h, List.map_append,
    List.map_singleton, ← withMember_of_not_mem href]
  rfl

/-- The ends of a transition join the nodes of the chart. -/
theorem withMembers_ends (harcs : m.arcs = done ++ a :: restArcs) :
    withMembers ((m.placedVertices m.states.entries done).map (m.vertexRef w))
        (m.arcEdge w line a).nodes
      = (m.placedVertices m.states.entries (done ++ [a])).map (m.vertexRef w) := by
  have ha : a ∈ m.arcs := by
    rw [harcs]
    exact List.mem_append_right _ List.mem_cons_self
  have hsource : m.vertexRef w (m.vertex a.state)
      ∈ (m.placedVertices m.states.entries done).map (m.vertexRef w) :=
    List.mem_map_of_mem (vertex_state_mem ha)
  show withMember (withMember _ (m.vertexRef w (m.vertex a.state)))
    (m.vertexRef w (m.vertex a.transition.target)) = _
  rw [withMember_of_mem hsource]
  by_cases hmem : m.vertex a.transition.target ∈ m.placedVertices m.states.entries done
  · rw [placedVertices_append_of_mem hmem, withMember_of_mem (List.mem_map_of_mem hmem)]
  · obtain ⟨-, happend, rest, hnext⟩ := placedVertices_append_of_not_mem harcs hmem
    have hvertices : m.vertex a.transition.target ∈ m.vertices := by
      rw [hnext]
      exact List.mem_append_right _ List.mem_cons_self
    rw [happend, List.map_append, List.map_singleton,
      withMember_of_not_mem (mt (vertexRef_mem_map hvertices).mp hmem)]

/-- The chart once the edge of a transition joins. -/
theorem placedChart_addEdges {s : Store} {e : EdgeId} (harcs : m.arcs = done ++ a :: restArcs)
    (he : e = ⟨w.store.edges.size + done.length⟩) (hedge : s.edge e = m.arcEdge w line a) :
    (m.placedChart rules w start m.states.entries done).addEdges s [e]
      = m.placedChart rules w start m.states.entries (done ++ [a]) := by
  have hnew : e ∉ (m.placedChart rules w start m.states.entries done).edges := by
    intro hmem
    have hlt := mem_arcRefs hmem
    rw [he] at hlt
    exact absurd hlt (Nat.lt_irrefl _)
  have hnodes : withMembers (m.placedChart rules w start m.states.entries done).nodes
      (s.edge e).nodes = (m.placedVertices m.states.entries (done ++ [a])).map (m.vertexRef w) := by
    rw [hedge]
    exact withMembers_ends harcs
  have hedges : arcRefs w (done ++ [a]).length = arcRefs w done.length ++ [e] := by
    rw [List.length_append, List.length_singleton, arcRefs_succ, he]
  show Chart.addEdge s _ e = _
  rw [Chart.addEdge, if_neg hnew, hnodes, placedChart, placedChart, hedges]

end Machine

/-! ## The placement -/

namespace Placement

variable {rules : InstalledTable} {c : ChartId} {p : Placement} {e : String × MachineState}
  {n : NodeId} {target : String}

theorem addState_of_some (h : p.workspace.store.findNode? c (Machine.entryId e) = some n) :
    p.addState rules c e.1 e.2 = ⟨p.workspace, p.nodes.insert e.1 n⟩ := by
  have h' : p.workspace.store.findNode? c (Text.stateNodeId e.1) = some n := h
  simp only [addState, h']

theorem addState_of_none (h : p.workspace.store.findNode? c (Machine.entryId e) = none) :
    p.addState rules c e.1 e.2 =
      let (n, x) := p.workspace.addNode (Machine.entryNode rules e)
      ⟨x.updateChart c fun chart =>
          (chart.addClasses ((rules.forState? e.2).map (·.1)).toList).addNodes [n],
        p.nodes.insert e.1 n⟩ := by
  have h' : p.workspace.store.findNode? c (Text.stateNodeId e.1) = none := h
  simp only [addState, h']
  rfl

theorem targetNode_of_some (h : p.nodes.get? target = some n) : p.targetNode target = (n, p) := by
  simp only [targetNode, h]

theorem targetNode_of_none (h : p.nodes.get? target = none) :
    p.targetNode target =
      let (n, x) := p.workspace.addNode { id := Text.stateNodeId target }
      (n, ⟨x, p.nodes.insert target n⟩) := by
  simp only [targetNode, h]

theorem addArc_eq {line : LineStyle} {a : Arc} {x : Edge}
    (h : { Edge.arrowTo ((p.nodes.get? a.state).getD default)
      (p.targetNode a.transition.target).1 with line, label := a.transition.description } = x) :
    p.addArc line c a =
      let q := (p.targetNode a.transition.target).2
      let (e, y) := q.workspace.addEdge x
      ⟨y.updateChart c (·.addEdges y.store [e]), q.nodes⟩ := by
  rw [← h]
  rfl

end Placement

/-- Where the placement of a machine stands after some states and transitions, in a chart that was
`start` when the placement began. -/
structure Placed (m : Machine) (rules : InstalledTable) (line : LineStyle) (w : Workspace)
    (c : ChartId) (start : Chart) (es : List (String × MachineState)) (as : List Arc)
    (p : Placement) : Prop where
  drawn : Drawn m rules line w c (m.placedVertices es as) as (m.placedChart rules w start es as)
    p.workspace
  get?_eq : ∀ name, p.nodes.get? name
    = if name ∈ m.placedNames es as then some (m.vertexRef w (m.vertex name)) else none

namespace Placed

open Machine

variable {m : Machine} {rules : InstalledTable} {line : LineStyle} {w : Workspace} {c : ChartId}
  {start : Chart} {es rest : List (String × MachineState)} {e : String × MachineState}
  {done restArcs : List Arc} {a : Arc} {p : Placement}

/-- One more name with its node. -/
theorem get?_insert (h : Placed m rules line w c start es done p) (name other : String) :
    (p.nodes.insert name (m.vertexRef w (m.vertex name))).get? other
      = if other = name ∨ other ∈ m.placedNames es done then some (m.vertexRef w (m.vertex other))
        else none := by
  by_cases hother : other = name
  · rw [hother, Dict.get?_insert_self, if_pos (.inl rfl)]
  · rw [Dict.get?_insert_of_ne _ _ hother, h.get?_eq other]
    exact if_congr (by rw [or_iff_right hother]) rfl rfl

/-- Placing one more state. -/
theorem addState (h : Placed m rules line w c start es [] p)
    (hentries : m.states.entries = es ++ e :: rest) :
    Placed m rules line w c start (es ++ [e]) [] (p.addState rules c e.1 e.2) := by
  have hvertex : m.vertex e.1 = .state (entryId e) := by
    refine vertex_of_contains (contains_of_mem_entries ?_)
    rw [hentries]
    exact List.mem_append_right _ List.mem_cons_self
  have hdrawn := h.drawn
  rw [placedVertices_nil] at hdrawn
  have hnodes : (m.placedChart rules w start es []).nodes
      = (stateVertices es).map (m.vertexRef w) := by
    rw [placedChart, placedVertices_nil]
  have hfind := hdrawn.findNode?_eq hnodes (entryId e)
  by_cases hid : entryId e ∈ es.map entryId
  · -- The node of the first state with this identifier stands for this one, too.
    rw [if_pos hid, ← hvertex] at hfind
    rw [Placement.addState_of_some hfind]
    constructor
    · rw [placedVertices_nil, stateVertices_append_of_mem hid, placedChart_append_of_mem hid]
      exact hdrawn
    · intro other
      rw [h.get?_insert]
      exact if_congr mem_placedNames_append.symm rfl rfl
  · -- The state is the first with this identifier, so its node is the next one.
    rw [if_neg hid] at hfind
    obtain ⟨hmem, rest, hnext⟩ := vertices_eq_of_not_mem hentries hid
    have hnew : .state (entryId e) ∉ stateVertices es := mt state_mem_stateVertices.mp hid
    obtain ⟨href, hadd⟩ := hdrawn.addNode hnext hnew
    rw [vertexNode_of_mem_drawnStates hmem] at href hadd
    have hrefNew : m.vertexRef w (.state (entryId e)) ∉ (stateVertices es).map (m.vertexRef w) :=
      mt (vertexRef_mem_map (state_mem_vertices hmem)).mp hnew
    rw [Placement.addState_of_none hfind]
    constructor
    · rw [placedVertices_nil, stateVertices_append_of_not_mem hid,
        ← placedChart_addNodes hid hrefNew, ← href]
      exact hadd.updateChart fun chart =>
        (chart.addClasses ((rules.forState? e.2).map (·.1)).toList).addNodes
          [(p.workspace.addNode (entryNode rules e)).1]
    · intro other
      show (p.nodes.insert e.1 _).get? other = _
      rw [href, ← hvertex, h.get?_insert]
      exact if_congr mem_placedNames_append.symm rfl rfl

/-- Placing all states. -/
theorem addStates (h : Placed m rules line w c start es [] p)
    (hentries : m.states.entries = es ++ rest) :
    Placed m rules line w c start m.states.entries []
      (rest.foldl (fun p e => p.addState rules c e.1 e.2) p) := by
  induction rest generalizing es p with
  | nil =>
    rw [hentries, List.append_nil]
    exact h
  | cons e rest ih =>
    refine ih (h.addState hentries) ?_
    rw [hentries, List.append_assoc]
    rfl

/-- Finding or adding the node that a transition leads to. -/
theorem targetNode (h : Placed m rules line w c start m.states.entries done p)
    (harcs : m.arcs = done ++ a :: restArcs) :
    (p.targetNode a.transition.target).1 = m.vertexRef w (m.vertex a.transition.target) ∧
      Drawn m rules line w c (m.placedVertices m.states.entries (done ++ [a])) done
        (m.placedChart rules w start m.states.entries done)
        (p.targetNode a.transition.target).2.workspace ∧
      ∀ name, (p.targetNode a.transition.target).2.nodes.get? name
        = if name ∈ m.placedNames m.states.entries (done ++ [a])
          then some (m.vertexRef w (m.vertex name)) else none := by
  have hget := h.get?_eq a.transition.target
  simp only [mem_placedNames_iff] at hget ⊢
  by_cases hmem : m.vertex a.transition.target ∈ m.placedVertices m.states.entries done
  · rw [if_pos hmem] at hget
    rw [Placement.targetNode_of_some hget, placedVertices_append_of_mem hmem]
    refine ⟨rfl, h.drawn, fun name => ?_⟩
    rw [h.get?_eq]
    exact if_congr mem_placedNames_iff rfl rfl
  · -- Only the node of a state that is not declared can be missing.
    rw [if_neg hmem] at hget
    obtain ⟨hvertex, happend, rest, hnext⟩ := placedVertices_append_of_not_mem harcs hmem
    obtain ⟨href, hadd⟩ := h.drawn.addNode hnext hmem
    have hnode : m.vertexNode rules (m.vertex a.transition.target)
        = { id := Text.stateNodeId a.transition.target } := by
      rw [hvertex]
      rfl
    rw [hnode] at href hadd
    rw [Placement.targetNode_of_none hget, happend]
    refine ⟨href, hadd, fun name => ?_⟩
    show (p.nodes.insert a.transition.target _).get? name = _
    rw [href, h.get?_insert]
    refine if_congr ?_ rfl rfl
    rw [mem_placedNames_iff, List.mem_append, List.mem_singleton, or_comm, hvertex]
    refine or_congr_right ⟨?_, eq_of_vertex_eq_undeclared⟩
    rintro rfl
    exact hvertex

/-- Placing one more transition. -/
theorem addArc (h : Placed m rules line w c start m.states.entries done p)
    (harcs : m.arcs = done ++ a :: restArcs) :
    Placed m rules line w c start m.states.entries (done ++ [a]) (p.addArc line c a) := by
  have ha : a ∈ m.arcs := by
    rw [harcs]
    exact List.mem_append_right _ List.mem_cons_self
  have hsource : p.nodes.get? a.state = some (m.vertexRef w (m.vertex a.state)) := by
    rw [h.get?_eq, if_pos (mem_placedNames_iff.mpr (vertex_state_mem ha))]
  obtain ⟨htarget, hdrawn, hnames⟩ := h.targetNode harcs
  have hedge : { Edge.arrowTo ((p.nodes.get? a.state).getD default)
        (p.targetNode a.transition.target).1 with line, label := a.transition.description }
      = m.arcEdge w line a := by
    rw [hsource, htarget]
    rfl
  rw [Placement.addArc_eq hedge]
  obtain ⟨href, hadd⟩ := hdrawn.addEdge (a := a)
  refine ⟨?_, hnames⟩
  have hjoined := hadd.updateChart fun chart => chart.addEdges
    ((p.targetNode a.transition.target).2.workspace.addEdge (m.arcEdge w line a)).2.store
    [((p.targetNode a.transition.target).2.workspace.addEdge (m.arcEdge w line a)).1]
  rwa [placedChart_addEdges harcs href (Workspace.edge_addEdge_self _ _)] at hjoined

/-- Placing all transitions. -/
theorem addArcs (h : Placed m rules line w c start m.states.entries done p)
    (harcs : m.arcs = done ++ restArcs) :
    Placed m rules line w c start m.states.entries m.arcs
      (restArcs.foldl (Placement.addArc line c) p) := by
  induction restArcs generalizing done p with
  | nil =>
    rw [List.append_nil] at harcs
    rw [harcs]
    exact h
  | cons a rest ih =>
    refine ih (h.addArc harcs) ?_
    rw [harcs, List.append_assoc]
    rfl

/-- Placing the whole machine. -/
theorem addMachine (h : Placed m rules line w c start [] [] p) :
    Placed m rules line w c start m.states.entries m.arcs
      (Placement.addMachine rules line c p m) :=
  (h.addStates rfl).addArcs rfl

end Placed

/-! ## The whole machine -/

/-- The chart of a machine before anything is placed in it. -/
def MachineSettings.startChart (settings : MachineSettings) (name : String)
    (ds : List DirectiveId) : Chart where
  name
  direction := settings.direction.getD .topBottom
  directives := ds
  defaultLink := some transitionLink

namespace Workspace

variable {w x : Workspace} {m : Machine} {rules : InstalledTable} {settings : MachineSettings}

/-- What a workspace holds where a chart has been added that is what it is by now and has some
directives. Nothing but the chart and the directives is new. -/
structure Prepared (w : Workspace) (c : ChartId) (chart : Chart) (ds : List Directive)
    (x : Workspace) : Prop where
  nodes_eq : x.store.nodes = w.store.nodes
  edges_eq : x.store.edges = w.store.edges
  classes_eq : x.store.classes = w.store.classes
  seen_eq : x.seen = w.seen
  index_lt : c.index < x.store.charts.size
  chart_eq : x.store.chart c = chart
  directives_eq : chart.directives.map x.store.directive = ds

theorem prepared_newChart (w : Workspace) :
    Prepared w w.newChart.1 { name := (w.nameOr .chart none).1 } [] w.newChart.2 where
  nodes_eq := rfl
  edges_eq := rfl
  classes_eq := rfl
  seen_eq := rfl
  index_lt := by
    show w.store.charts.size < (w.store.charts.push _).size
    rw [Shelf.size_push]
    exact Nat.lt_succ_self _
  chart_eq := Store.chart_newChart_self _ _
  directives_eq := rfl

namespace Prepared

variable {c : ChartId} {chart : Chart} {ds : List Directive}

theorem updateChart (h : Prepared w c chart ds x) {f : Chart → Chart}
    (hf : (f chart).directives = chart.directives) :
    Prepared w c (f chart) ds (x.updateChart c f) where
  nodes_eq := h.nodes_eq
  edges_eq := h.edges_eq
  classes_eq := h.classes_eq
  seen_eq := h.seen_eq
  index_lt := by
    rw [size_charts_updateChart]
    exact h.index_lt
  chart_eq := by rw [chart_updateChart_self h.index_lt, h.chart_eq]
  directives_eq := by
    rw [hf]
    exact h.directives_eq

theorem addDirective (h : Prepared w c chart [] x) (d : Directive) :
    Prepared w c { chart with directives := [(x.addDirective d).1] } [d]
      ((x.addDirective d).2.updateChart c (·.addDirectives [(x.addDirective d).1])) where
  nodes_eq := h.nodes_eq
  edges_eq := h.edges_eq
  classes_eq := h.classes_eq
  seen_eq := h.seen_eq
  index_lt := by
    rw [size_charts_updateChart]
    exact h.index_lt
  chart_eq := by
    have hnil : chart.directives = [] := List.map_eq_nil_iff.mp h.directives_eq
    have hchart : (x.addDirective d).2.store.chart c = chart := h.chart_eq
    rw [chart_updateChart_self (w := (x.addDirective d).2) h.index_lt, hchart, Chart.addDirectives,
      hnil]
    rfl
  directives_eq := congrArg (fun d => [d]) (Shelf.get_push_self x.store.directives d)

end Prepared

/-- A new chart with some settings. -/
theorem prepared_addSettings (w : Workspace) (settings : MachineSettings) :
    ∃ name ds, Prepared w w.newChart.1 (settings.startChart name ds) settings.directive?.toList
      (w.newChart.2.addSettings w.newChart.1 settings) := by
  have hset := (prepared_newChart w).updateChart (f := fun chart =>
    { chart with direction := settings.direction.getD chart.direction
                 defaultLink := some transitionLink }) rfl
  rw [addSettings]
  cases settings.directive? with
  | none => exact ⟨_, _, hset⟩
  | some d => exact ⟨_, _, hset.addDirective d⟩

/-- The chart of a machine whose tags are all right. -/
theorem drawMachine_eq_ok (w : Workspace) (rules : InstalledTable)
    (hset : MachineSettings.ofTags m.tags = .ok settings) :
    ∃ c name ds base x, w.drawMachine m rules = .ok (c, x) ∧
      Prepared w c (settings.startChart name ds) settings.directive?.toList base ∧
      Drawn m rules settings.line base c m.vertices m.arcs
        (m.placedChart rules base (settings.startChart name ds) m.states.entries m.arcs) x := by
  obtain ⟨name, ds, hbase⟩ := prepared_addSettings w settings
  have hnone : Placed m rules settings.line (w.newChart.2.addSettings w.newChart.1 settings)
      w.newChart.1 (settings.startChart name ds) [] []
      ⟨w.newChart.2.addSettings w.newChart.1 settings, {}⟩ :=
    { drawn :=
        { size_nodes := rfl
          size_edges := rfl
          node_ref := fun _ hv => absurd hv List.not_mem_nil
          index_ref := fun _ hv => absurd hv List.not_mem_nil
          map_edge := rfl
          index_lt := hbase.index_lt
          chart_eq := hbase.chart_eq
          classes_eq := rfl
          directives_eq := rfl
          seen_eq := rfl }
      get?_eq := fun _ => rfl }
  refine ⟨_, name, ds, _, _, ?_, hbase, hnone.addMachine.drawn⟩
  rw [drawMachine, hset]
  rfl

end Workspace

end Flowchart
