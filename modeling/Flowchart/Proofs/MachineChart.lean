import Flowchart.Proofs.MachineRender

/-!
# The chart of a machine, read off the machine

`Machine.Depicted` says of a chart that it shows a machine, in terms of the machine alone: which
nodes there are and what they look like, where each edge leads, and which classes are used. The main
statement is `Machine.depicted_buildChart`: that is the chart a machine is given, with every style
table, and also where rules share classes. It is what `Drawn` says of the placement of the whole
machine (`Drawn.depicted`).
-/

namespace Flowchart

/-- A chart that shows a machine whose states are styled by a rule, with the node of each vertex. -/
structure Machine.Depicted (m : Machine) (rule : MachineState → Option (ClassId × Option Shape))
    (line : LineStyle) (ref : Vertex → NodeId) (s : Store) (chart : Chart) : Prop where
  /-- One node for each identifier of a state, then one for each name to which a transition leads
  and which is not declared. -/
  nodes_eq : chart.nodes
    = (m.drawnStates.map fun e => ref (.state (Text.stateNodeId e.1)))
      ++ (firstsBy (fun name => name) (m.danglingArcs.map fun a => a.transition.target)).map
        fun name => ref (.undeclared name)
  nodup_nodes : chart.nodes.Nodup
  /-- Of the states that share an identifier, the first one gives the label and the rule. -/
  node_state : ∀ e ∈ m.drawnStates, s.node (ref (.state (Text.stateNodeId e.1)))
    = { id := Text.stateNodeId e.1
        text := e.2.description.getD e.1
        shape := (rule e.2).bind (·.2)
        classStyle := (rule e.2).map (·.1) }
  node_undeclared : ∀ a ∈ m.danglingArcs, s.node (ref (.undeclared a.transition.target))
    = { id := Text.stateNodeId a.transition.target, text := "", shape := none, classStyle := none }
  nodup_edges : chart.edges.Nodup
  /-- One edge for each transition, with an arrowhead at its target. -/
  map_edge : chart.edges.map s.edge = m.arcs.map fun a =>
    { source := { node := ref (.state (Text.stateNodeId a.state)), arrow := false }
      target := { node := ref (m.vertex a.transition.target), arrow := true }
      depth := 0
      line
      label := a.transition.description
      link := none }
  /-- The classes of the states that are drawn, in the order of first use. -/
  classes_eq : chart.classes
    = firstsBy (fun k => k) (m.drawnStates.filterMap fun e => (rule e.2).map (·.1))

namespace Machine

variable {m : Machine} {w : Workspace}

theorem nodup_map_vertexRef (m : Machine) (w : Workspace) :
    (m.vertices.map (m.vertexRef w)).Nodup :=
  (nodup_vertices m).map_on fun _ hv _ _ heq => (vertexRef_inj hv).mp heq

theorem nodup_arcRefs (w : Workspace) (n : Nat) : (arcRefs w n).Nodup := by
  refine List.Nodup.map (fun i j hij => ?_) List.nodup_range
  exact Nat.add_left_cancel (EdgeId.mk.inj hij)

/-- The edge of a transition leaves the node of the identifier of its state. -/
theorem arcEdge_eq {a : Arc} (ha : a ∈ m.arcs) (line : LineStyle) :
    m.arcEdge w line a =
      { source := { node := m.vertexRef w (.state (Text.stateNodeId a.state)), arrow := false }
        target := { node := m.vertexRef w (m.vertex a.transition.target), arrow := true }
        depth := 0
        line
        label := a.transition.description
        link := none } := by
  rw [arcEdge, vertex_of_contains (contains_of_mem_arcs ha)]
  rfl

end Machine

/-- What has been drawn of a whole machine shows it. -/
theorem Drawn.depicted {m : Machine} {rules : InstalledTable} {line : LineStyle} {w x : Workspace}
    {c : ChartId} {start : Chart}
    (h : Drawn m rules line w c m.vertices m.arcs
      (m.placedChart rules w start m.states.entries m.arcs) x) :
    m.Depicted rules.forState? line (m.vertexRef w) x.store (x.store.chart c) := by
  rw [h.chart_eq]
  exact
    { nodes_eq := by
        rw [Machine.placedChart, Machine.placedVertices, List.map_append, Machine.stateVertices,
          Machine.undeclaredVertices, List.map_map, List.map_map]
        rfl
      nodup_nodes := Machine.nodup_map_vertexRef m w
      node_state := by
        intro e he
        have hnode := h.node_ref _ (Machine.state_mem_vertices he)
        rwa [Machine.vertexNode_of_mem_drawnStates he] at hnode
      node_undeclared := by
        intro a ha
        have hname : a.transition.target ∈ m.undeclaredNames m.arcs :=
          List.mem_map_of_mem (f := fun a : Arc => a.transition.target) ha
        refine h.node_ref _ (List.mem_append_right _ ?_)
        exact Machine.undeclared_mem_undeclaredVertices.mpr hname
      nodup_edges := Machine.nodup_arcRefs w _
      map_edge := h.map_edge.trans (List.map_congr_left fun _ ha => Machine.arcEdge_eq ha line)
      classes_eq := withMembers_nil _ }

/-- In a store, the rule of a state gives the class that stands for its tag. -/
theorem StyleTable.forState?_install (t : StyleTable) (s : Store) :
    (t.install s).1.forState? = fun state =>
      ((state.kind.toList ++ state.tags).find? t.contains).bind fun tag =>
        (t.get? tag).map fun r => (classOf s t.entries tag, r.shape) := by
  funext state
  refine ((t.restyles_install s).rule_eq state).trans ?_
  show ((t.tagFor? state).bind _).map _ = (t.tagFor? state).bind _
  cases t.tagFor? state with
  | none => rfl
  | some tag =>
    show ((t.get? tag).bind _).map _ = (t.get? tag).map _
    cases t.get? tag <;> rfl

namespace Machine

variable {m : Machine} {settings : MachineSettings}

/-- A machine whose tags are all right is given a chart that shows it. With a style table, each rule
has a class of its own, and a state has the rule of its type, or else of the first of its tags, that
the table has. So it is with rules whose classes are in the workspace already, where two rules may
have the same one. -/
theorem depicted_buildChart (hset : MachineSettings.ofTags m.tags = .ok settings) :
    (∀ (w : Workspace) (t : StyleTable), ∃ c x ref, ∃ classOf : String → ClassId,
      w.buildChart m t = .ok (c, x) ∧
        m.Depicted
          (fun state => ((state.kind.toList ++ state.tags).find? t.contains).bind fun tag =>
            (t.get? tag).map fun r => (classOf tag, r.shape))
          settings.line ref x.store (x.store.chart c) ∧
        (∀ tag r, t.get? tag = some r → x.store.classStyle (classOf tag) = r.style) ∧
        ∀ tag ∈ t.keys, ∀ tag', classOf tag = classOf tag' → tag = tag') ∧
    ∀ (w : Workspace) (rules : InstalledTable), ∃ c x ref,
      w.drawMachine m rules = .ok (c, x) ∧
        m.Depicted
          (fun state => ((state.kind.toList ++ state.tags).find? rules.contains).bind rules.get?)
          settings.line ref x.store (x.store.chart c) ∧
        x.store.classes = w.store.classes := by
  constructor
  · intro w t
    obtain ⟨c, name, ds, base, x, hdraw, hbase, hdrawn⟩ :=
      { w with store := (t.install w.store).2 }.drawMachine_eq_ok (t.install w.store).1 hset
    refine ⟨c, x, m.vertexRef base, classOf w.store t.entries, hdraw, ?_, fun tag r hr => ?_,
      fun tag htag tag' heq => eq_of_classOf htag heq⟩
    · rw [← t.forState?_install w.store]
      exact hdrawn.depicted
    · have hclasses := hdrawn.classes_eq.trans hbase.classes_eq
      rw [Store.classStyle, hclasses]
      exact classStyle_installRules hr
  · intro w rules
    obtain ⟨c, name, ds, base, x, hdraw, hbase, hdrawn⟩ := w.drawMachine_eq_ok rules hset
    refine ⟨c, x, m.vertexRef base, hdraw, ?_, hdrawn.classes_eq.trans hbase.classes_eq⟩
    -- The placement looks a rule up in two steps, first by the type.
    rw [← funext rules.forState?_eq_bind]
    exact hdrawn.depicted

/-- The machine with the built-in table, and with two rules for one class. -/
theorem depicted_detours :
    MachineSettings.ofTags detours.tags = .ok { curve := some .basis, line := .dotted } ∧
      (∃ c x, ∃ ref : Vertex → NodeId,
        ({} : Workspace).buildChart detours .builtIn = .ok (c, x) ∧
          (x.store.chart c).nodes
            = [ref (.state "in_use"), ref (.state "idle"), ref (.undeclared "gone")] ∧
          (x.store.chart c).edges.map x.store.edge
            = [{ source := { node := ref (.state "in_use") }
                 target := { node := ref (.state "in_use"), arrow := true }, line := .dotted },
              { source := { node := ref (.state "in_use") }
                target := { node := ref (.undeclared "gone"), arrow := true }, line := .dotted
                label := some "a|b" },
              { source := { node := ref (.state "in_use") }
                target := { node := ref (.state "in_use"), arrow := true }, line := .dotted },
              { source := { node := ref (.state "in_use") }
                target := { node := ref (.undeclared "gone"), arrow := true }, line := .dotted
                label := some "late" }]) ∧
      ∃ c x, ∃ ref : Vertex → NodeId,
        Workspace.oneClass.drawMachine detours
            ⟨[("final", ⟨0⟩, some .circle), ("history", ⟨0⟩, none)]⟩ = .ok (c, x) ∧
          x.store.node (ref (.state "in_use"))
            = { id := "in_use", text := "in use", shape := some .circle
                classStyle := some ⟨0⟩ } ∧
          (x.store.chart c).classes = [⟨0⟩] := by
  have hset : MachineSettings.ofTags detours.tags
      = .ok { curve := some .basis, line := .dotted } := rfl
  have hid : Text.stateNodeId "in use" = "in_use" := by decide +kernel
  have hsame : Text.stateNodeId "in  use" = "in_use" := by decide +kernel
  obtain ⟨htable, hrules⟩ := depicted_buildChart hset
  refine ⟨hset, ?_, ?_⟩
  · obtain ⟨c, x, ref, classOf, hbuild, h, -⟩ := htable {} .builtIn
    have hstates : detours.drawnStates.map (fun e => Text.stateNodeId e.1)
        = ["in_use", "idle"] := by decide +kernel
    have hnames : firstsBy (fun name => name)
        (detours.danglingArcs.map fun a => a.transition.target) = ["gone"] := by decide +kernel
    have harcs : detours.arcs = [⟨"in use", "stay", { target := "in use" }⟩,
        ⟨"in use", "leave", { target := "gone", description := some "a|b" }⟩,
        ⟨"in  use", "back", { target := "in use" }⟩,
        ⟨"in  use", "lose", { target := "gone", description := some "late" }⟩] := by
      decide +kernel
    have hstay : detours.vertex "in use" = .state "in_use" := by decide +kernel
    have hleave : detours.vertex "gone" = .undeclared "gone" := by decide +kernel
    refine ⟨c, x, ref, hbuild, ?_, ?_⟩
    · have hmap : (detours.drawnStates.map fun e => ref (.state (Text.stateNodeId e.1)))
          = ["in_use", "idle"].map fun id => ref (.state id) := by
        rw [← hstates, List.map_map]
        rfl
      rw [h.nodes_eq, hmap, hnames]
      rfl
    · rw [h.map_edge, harcs]
      simp only [List.map_cons, List.map_nil, hid, hsame, hstay, hleave]
  · obtain ⟨c, x, ref, hdraw, h, -⟩ := hrules Workspace.oneClass
      ⟨[("final", ⟨0⟩, some .circle), ("history", ⟨0⟩, none)]⟩
    refine ⟨c, x, ref, hdraw, ?_, h.classes_eq.trans (by decide +kernel)⟩
    have hnode := h.node_state _ List.mem_cons_self
    simp only [hid] at hnode
    rw [hnode]
    decide +kernel

end Machine

end Flowchart
