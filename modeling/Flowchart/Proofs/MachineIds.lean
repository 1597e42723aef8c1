import Flowchart.Proofs.MachineChart

/-!
# The identifiers of the nodes of a machine

States whose names have the same identifier share a node, so the nodes of the states go by
different identifiers. A state that is not declared has a node for its name as it is written: if
the name has the identifier of a declared state, or of another undeclared one, two nodes of the
chart go by one identifier (`not_nodup_ids_paddedTarget`). The main statement is
`Machine.nodup_ids_buildChart_iff`, that there is no other way.
-/

namespace Flowchart

/-- The identifiers of the nodes that a chart holds. -/
def Store.idsOf (s : Store) (c : ChartId) : List String :=
  (s.chart c).nodes.map fun n => (s.node n).id

namespace Machine

/-- The names of states that are not declared to which transitions lead, each once. -/
def danglingNames (m : Machine) : List String :=
  firstsBy (fun name => name) (m.danglingArcs.map fun a => a.transition.target)

variable {m : Machine} {rule : MachineState → Option (ClassId × Option Shape)} {line : LineStyle}
  {ref : Vertex → NodeId} {s : Store} {c : ChartId} {settings : MachineSettings}

theorem mem_danglingNames {name : String} :
    name ∈ m.danglingNames ↔ ∃ a ∈ m.danglingArcs, a.transition.target = name := by
  rw [danglingNames, mem_firstsBy_self, List.mem_map]

theorem nodup_danglingNames (m : Machine) : m.danglingNames.Nodup :=
  nodup_firstsBy_self _

/-- The declared states go by their identifiers, each once, and the undeclared names by theirs. -/
theorem Depicted.idsOf_eq (h : m.Depicted rule line ref s (s.chart c)) :
    s.idsOf c = firstsBy (fun id => id) (m.states.keys.map Text.stateNodeId)
      ++ m.danglingNames.map Text.stateNodeId := by
  have hstates : (m.drawnStates.map fun e => (s.node (ref (.state (Text.stateNodeId e.1)))).id)
      = m.drawnStates.map entryId := by
    apply List.map_congr_left
    intro e he
    rw [h.node_state e he]
    rfl
  have hnames : (m.danglingNames.map fun name => (s.node (ref (.undeclared name))).id)
      = m.danglingNames.map Text.stateNodeId := by
    apply List.map_congr_left
    intro name hname
    obtain ⟨a, ha, rfl⟩ := mem_danglingNames.mp hname
    rw [h.node_undeclared a ha]
  have hkeys : firstsBy (fun id => id) (m.states.keys.map Text.stateNodeId)
      = m.drawnStates.map entryId := by
    rw [drawnStates, map_firstsBy, Dict.keys, List.map_map]
    rfl
  rw [Store.idsOf, h.nodes_eq, List.map_append, List.map_map, List.map_map, hkeys]
  exact congrArg₂ (· ++ ·) hstates hnames

/-- Undeclared names have identifiers of their own if no two of them share one. -/
theorem nodup_ids_danglingNames_iff :
    (m.danglingNames.map Text.stateNodeId).Nodup ↔
      ∀ a ∈ m.danglingArcs, ∀ b ∈ m.danglingArcs,
        Text.stateNodeId a.transition.target = Text.stateNodeId b.transition.target →
          a.transition.target = b.transition.target := by
  rw [List.nodup_map_iff_inj_on m.nodup_danglingNames]
  constructor
  · intro h a ha b hb
    exact h _ (mem_danglingNames.mpr ⟨a, ha, rfl⟩) _ (mem_danglingNames.mpr ⟨b, hb, rfl⟩)
  · intro h x hx y hy
    obtain ⟨a, ha, rfl⟩ := mem_danglingNames.mp hx
    obtain ⟨b, hb, rfl⟩ := mem_danglingNames.mp hy
    exact h a ha b hb

/-- The nodes go by different identifiers exactly if no name that is not declared has the
identifier of a declared state or of another such name. -/
theorem Depicted.nodup_idsOf_iff (h : m.Depicted rule line ref s (s.chart c)) :
    (s.idsOf c).Nodup ↔
      ∀ a ∈ m.danglingArcs,
        (∀ name ∈ m.states.keys, Text.stateNodeId name ≠ Text.stateNodeId a.transition.target) ∧
        ∀ b ∈ m.danglingArcs,
          Text.stateNodeId a.transition.target = Text.stateNodeId b.transition.target →
            a.transition.target = b.transition.target := by
  rw [h.idsOf_eq, List.nodup_append, nodup_ids_danglingNames_iff]
  constructor
  · rintro ⟨-, hnames, hapart⟩ a ha
    refine ⟨fun name hname => ?_, hnames a ha⟩
    refine hapart _ ?_ _ (List.mem_map_of_mem (mem_danglingNames.mpr ⟨a, ha, rfl⟩))
    exact mem_firstsBy_self.mpr (List.mem_map_of_mem hname)
  · intro h
    refine ⟨nodup_firstsBy_self _, fun a ha => (h a ha).2, fun id hid id' hid' => ?_⟩
    obtain ⟨name, hname, rfl⟩ := List.mem_map.mp (mem_firstsBy_self.mp hid)
    obtain ⟨name', hname', rfl⟩ := List.mem_map.mp hid'
    obtain ⟨a, ha, rfl⟩ := mem_danglingNames.mp hname'
    exact (h a ha).1 name hname

/-- A machine whose tags are all right is given a chart with a node for each identifier of a
declared state and one for each undeclared name, and two of them go by one identifier only if an
undeclared name has the identifier of a declared state or of another undeclared name. -/
theorem nodup_ids_buildChart_iff (hset : MachineSettings.ofTags m.tags = .ok settings)
    (w : Workspace) (t : StyleTable) :
    ∃ c x, w.buildChart m t = .ok (c, x) ∧
      x.store.idsOf c = firstsBy (fun id => id) (m.states.keys.map Text.stateNodeId)
        ++ m.danglingNames.map Text.stateNodeId ∧
      ((x.store.idsOf c).Nodup ↔
        ∀ a ∈ m.danglingArcs,
          (∀ name ∈ m.states.keys, Text.stateNodeId name ≠ Text.stateNodeId a.transition.target) ∧
          ∀ b ∈ m.danglingArcs,
            Text.stateNodeId a.transition.target = Text.stateNodeId b.transition.target →
              a.transition.target = b.transition.target) := by
  obtain ⟨c, _, _, _, x, hdraw, -, hdrawn⟩ :=
    { w with store := (t.install w.store).2 }.drawMachine_eq_ok (t.install w.store).1 hset
  exact ⟨c, x, hdraw, hdrawn.depicted.idsOf_eq, hdrawn.depicted.nodup_idsOf_iff⟩

/-- A machine with two undeclared names, which have the identifier of neither its states nor each
other. -/
def loneTargets : Machine where
  id := "m"
  states := ⟨[("a b", { on := ⟨[("GO", { target := "c" })]⟩ }),
    ("a  b", { on := ⟨[("HOP", { target := "d e" }), ("JUMP", { target := "c" })]⟩ })]⟩

theorem nodup_ids_loneTargets :
    MachineSettings.ofTags loneTargets.tags = .ok {} ∧
      ∃ c x, ({} : Workspace).buildChart loneTargets .builtIn = .ok (c, x) ∧
        x.store.idsOf c = ["a_b", "c", "d_e"] ∧ (x.store.idsOf c).Nodup := by
  have hset : MachineSettings.ofTags loneTargets.tags = .ok {} := rfl
  obtain ⟨c, x, hbuild, hids, hnodup⟩ := nodup_ids_buildChart_iff hset {} .builtIn
  have hnames : firstsBy (fun id => id) (loneTargets.states.keys.map Text.stateNodeId)
      ++ loneTargets.danglingNames.map Text.stateNodeId = ["a_b", "c", "d_e"] := by
    decide +kernel
  exact ⟨hset, c, x, hbuild, hids.trans hnames, hnodup.mpr (by decide +kernel)⟩

/-- A machine in which a transition leads to the name of a state with a blank behind it. -/
def paddedTarget : Machine where
  id := "m"
  states := ⟨[("a", { on := ⟨[("GO", { target := "a " })]⟩ })]⟩

/-- The state and the name that is not declared have a node each, both with the identifier `a`. -/
theorem not_nodup_ids_paddedTarget :
    MachineSettings.ofTags paddedTarget.tags = .ok {} ∧
      ∃ c x, ({} : Workspace).buildChart paddedTarget .builtIn = .ok (c, x) ∧
        x.store.idsOf c = ["a", "a"] ∧ ¬ (x.store.idsOf c).Nodup := by
  refine ⟨rfl, _, _, rfl, by decide +kernel, by decide +kernel⟩

end Machine

end Flowchart
