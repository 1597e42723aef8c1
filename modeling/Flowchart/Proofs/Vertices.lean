import Flowchart.Proofs.MachineText
import Mathlib.Data.List.Nodup

/-!
# The vertices of a machine

The states of a machine are placed one by one, then its transitions, and new nodes go to the end
of the store. So the node of each vertex is known beforehand (`Machine.vertexRef`), and the
vertices that are there at some moment are a first part of all vertices
(`vertices_eq_of_not_mem`, `placedVertices_append_of_not_mem`).
-/

namespace Flowchart

namespace Machine

variable (m : Machine) (rules : InstalledTable)

/-! ## Where things will be -/

/-- The node of a state. -/
def entryNode (e : String × MachineState) : Node where
  id := entryId e
  text := e.2.description.getD e.1
  shape := (rules.forState? e.2).bind (·.2)
  classStyle := (rules.forState? e.2).map (·.1)

/-- The node of a vertex. -/
def vertexNode : Vertex → Node
  | .state id =>
    ((m.states.entries.find? fun e => entryId e == id).map (entryNode rules)).getD { id }
  | .undeclared name => { id := Text.stateNodeId name }

/-- The vertices of some states. -/
def stateVertices (es : List (String × MachineState)) : List Vertex :=
  (firstsBy entryId es).map fun e => .state (entryId e)

/-- The names of states that are not declared to which some transitions lead. -/
def undeclaredNames (as : List Arc) : List String :=
  (as.filter m.dangles).map fun a => a.transition.target

/-- The vertices of states that are not declared to which some transitions lead. -/
def undeclaredVertices (as : List Arc) : List Vertex :=
  (firstsBy (fun name => name) (m.undeclaredNames as)).map .undeclared

/-- The vertices of some states and some transitions: the states, then those that are not
declared. -/
def placedVertices (es : List (String × MachineState)) (as : List Arc) : List Vertex :=
  stateVertices es ++ m.undeclaredVertices as

/-- Every vertex. -/
def vertices : List Vertex :=
  m.placedVertices m.states.entries m.arcs

/-- The classes that the states drawn so far use. -/
def entryClasses (es : List (String × MachineState)) : List ClassId :=
  withMembers [] ((firstsBy entryId es).filterMap fun e => (rules.forState? e.2).map (·.1))

/-- The names that have a node after some states and transitions. -/
def placedNames (es : List (String × MachineState)) (as : List Arc) : List String :=
  es.map (·.1) ++ m.undeclaredNames as

variable (w : Workspace)

/-- The node of a vertex, if the machine is drawn in a workspace. -/
def vertexRef (v : Vertex) : NodeId :=
  ⟨w.store.nodes.size + m.vertices.idxOf v⟩

variable {m rules w}

theorem vertexNode_id (v : Vertex) : (m.vertexNode rules v).id = v.id := by
  cases v with
  | undeclared name => rfl
  | state id =>
    rw [vertexNode]
    cases hfind : m.states.entries.find? fun e => entryId e == id with
    | none => rfl
    | some e =>
      show entryId e = id
      simpa using List.find?_some hfind

theorem vertexRef_inj {v v' : Vertex} (hv : v ∈ m.vertices) :
    m.vertexRef w v = m.vertexRef w v' ↔ v = v' := by
  rw [vertexRef, vertexRef, NodeId.mk.injEq, Nat.add_left_cancel_iff]
  exact List.idxOf_inj hv

theorem vertexRef_mem_map {v : Vertex} {vs : List Vertex} (hv : v ∈ m.vertices) :
    m.vertexRef w v ∈ vs.map (m.vertexRef w) ↔ v ∈ vs := by
  rw [List.mem_map]
  constructor
  · rintro ⟨v', hv', heq⟩
    rwa [(vertexRef_inj hv).mp heq.symm]
  · exact fun h => ⟨v, h, rfl⟩

/-- A vertex that follows some others is placed after them. -/
theorem vertexRef_of_vertices_eq {v : Vertex} {vs rest : List Vertex}
    (h : m.vertices = vs ++ v :: rest) (hv : v ∉ vs) :
    m.vertexRef w v = ⟨w.store.nodes.size + vs.length⟩ := by
  rw [vertexRef, h, List.idxOf_append_of_notMem hv, List.idxOf_cons_self, Nat.add_zero]

theorem state_mem_stateVertices {id : String} {es : List (String × MachineState)} :
    .state id ∈ stateVertices es ↔ id ∈ es.map entryId := by
  have hmap : stateVertices es = ((firstsBy entryId es).map entryId).map .state := by
    rw [stateVertices, List.map_map]
    rfl
  rw [hmap, List.mem_map_of_injective fun _ _ => Vertex.state.inj, mem_map_firstsBy]

theorem undeclared_not_mem_stateVertices {name : String} {es : List (String × MachineState)} :
    .undeclared name ∉ stateVertices es := by
  simp [stateVertices]

theorem undeclared_mem_undeclaredVertices {name : String} {as : List Arc} :
    .undeclared name ∈ m.undeclaredVertices as ↔ name ∈ m.undeclaredNames as := by
  rw [undeclaredVertices, List.mem_map_of_injective fun _ _ => Vertex.undeclared.inj,
    mem_firstsBy_self]

variable {es restStates : List (String × MachineState)} {e : String × MachineState}
  {done restArcs : List Arc} {a : Arc} {name : String} {v : Vertex} {s : Store}

/-! ## Declared states -/

theorem vertex_of_contains (h : m.states.contains name = true) :
    m.vertex name = .state (Text.stateNodeId name) :=
  if_pos h

theorem vertex_of_not_contains (h : ¬ m.states.contains name = true) :
    m.vertex name = .undeclared name :=
  if_neg h

theorem eq_of_vertex_eq_undeclared {other : String} (h : m.vertex name = .undeclared other) :
    name = other := by
  rw [vertex] at h
  split at h
  · cases h
  · exact Vertex.undeclared.inj h

theorem contains_of_mem_entries (h : e ∈ m.states.entries) : m.states.contains e.1 = true :=
  Dict.contains_iff.mpr (List.mem_map_of_mem h)

/-- A transition leaves a state that is declared. -/
theorem contains_of_mem_arcs (h : a ∈ m.arcs) : m.states.contains a.state = true := by
  obtain ⟨e, he, ha⟩ := List.mem_flatMap.mp h
  obtain ⟨t, -, rfl⟩ := List.mem_map.mp ha
  exact contains_of_mem_entries he

theorem dangles_iff : m.dangles a = true ↔ ¬ m.states.contains a.transition.target = true := by
  rw [dangles, Bool.not_eq_true', Bool.not_eq_true]

theorem mem_undeclaredNames :
    name ∈ m.undeclaredNames done ↔
      ¬ m.states.contains name = true ∧ ∃ a ∈ done, a.transition.target = name := by
  rw [undeclaredNames, List.mem_map]
  constructor
  · rintro ⟨a, ha, rfl⟩
    obtain ⟨hmem, hdangles⟩ := List.mem_filter.mp ha
    exact ⟨dangles_iff.mp hdangles, a, hmem, rfl⟩
  · rintro ⟨hname, a, ha, rfl⟩
    exact ⟨a, List.mem_filter.mpr ⟨ha, dangles_iff.mpr hname⟩, rfl⟩

/-- Once all states are placed, a name has a node exactly if its vertex does. -/
theorem mem_placedNames_iff :
    name ∈ m.placedNames m.states.entries done ↔
      m.vertex name ∈ m.placedVertices m.states.entries done := by
  rw [placedNames, placedVertices, List.mem_append, List.mem_append]
  by_cases h : m.states.contains name = true
  · have hkey : name ∈ m.states.keys := Dict.contains_iff.mp h
    obtain ⟨e, he, rfl⟩ := List.mem_map.mp hkey
    rw [vertex_of_contains h]
    exact iff_of_true (.inl hkey) (.inl (state_mem_stateVertices.mpr (List.mem_map_of_mem he)))
  · have hkey : name ∉ m.states.entries.map (·.1) := mt Dict.contains_iff.mpr h
    rw [vertex_of_not_contains h, undeclared_mem_undeclaredVertices]
    exact or_congr_left (iff_of_false hkey undeclared_not_mem_stateVertices)

theorem vertex_state_mem (h : a ∈ m.arcs) :
    m.vertex a.state ∈ m.placedVertices m.states.entries done := by
  rw [← mem_placedNames_iff, placedNames, List.mem_append]
  exact .inl (Dict.contains_iff.mp (contains_of_mem_arcs h))

theorem undeclaredNames_append_of_dangles (h : m.dangles a = true) :
    m.undeclaredNames (done ++ a :: restArcs)
      = m.undeclaredNames done ++ a.transition.target :: m.undeclaredNames restArcs := by
  rw [undeclaredNames, List.filter_append, List.filter_cons_of_pos h, List.map_append,
    List.map_cons]
  rfl

theorem undeclaredNames_append_of_not_dangles (h : ¬ m.dangles a = true) :
    m.undeclaredNames (done ++ [a]) = m.undeclaredNames done := by
  rw [undeclaredNames, List.filter_append, List.filter_cons_of_neg h, List.filter_nil,
    List.append_nil]
  rfl

/-- A transition to a vertex that is there adds none. -/
theorem placedVertices_append_of_mem
    (h : m.vertex a.transition.target ∈ m.placedVertices m.states.entries done) :
    m.placedVertices m.states.entries (done ++ [a]) = m.placedVertices m.states.entries done := by
  by_cases hdangles : m.dangles a = true
  · -- The vertex of a state that is not declared comes from an earlier transition.
    have hname : a.transition.target ∈ m.undeclaredNames done := by
      rw [vertex_of_not_contains (dangles_iff.mp hdangles), placedVertices, List.mem_append] at h
      exact undeclared_mem_undeclaredVertices.mp (h.resolve_left undeclared_not_mem_stateVertices)
    have hkey : a.transition.target ∈ (m.undeclaredNames done).map fun name => name := by
      rwa [List.map_id']
    rw [placedVertices, undeclaredVertices, undeclaredNames_append_of_dangles hdangles]
    show _ ++ (firstsBy _ (m.undeclaredNames done ++ [a.transition.target])).map _ = _
    rw [firstsBy_append_of_mem hkey]
    rfl
  · rw [placedVertices, undeclaredVertices, undeclaredNames_append_of_not_dangles hdangles]
    rfl

/-- A transition to a vertex that is not there adds this vertex, and it is the next one. -/
theorem placedVertices_append_of_not_mem (harcs : m.arcs = done ++ a :: restArcs)
    (h : m.vertex a.transition.target ∉ m.placedVertices m.states.entries done) :
    m.vertex a.transition.target = .undeclared a.transition.target ∧
      m.placedVertices m.states.entries (done ++ [a])
        = m.placedVertices m.states.entries done ++ [m.vertex a.transition.target] ∧
      ∃ rest, m.vertices
        = m.placedVertices m.states.entries done ++ m.vertex a.transition.target :: rest := by
  have hnew : a.transition.target ∉ m.placedNames m.states.entries done :=
    mt mem_placedNames_iff.mp h
  rw [placedNames, List.mem_append, not_or] at hnew
  have hundeclared : ¬ m.states.contains a.transition.target = true :=
    mt Dict.contains_iff.mp hnew.1
  have hkey : a.transition.target ∉ (m.undeclaredNames done).map fun name => name := by
    rw [List.map_id']
    exact hnew.2
  have hdangles := dangles_iff.mpr hundeclared
  refine ⟨vertex_of_not_contains hundeclared, ?_, ?_⟩
  · rw [placedVertices, undeclaredVertices, undeclaredNames_append_of_dangles hdangles]
    show _ ++ (firstsBy _ (m.undeclaredNames done ++ [a.transition.target])).map _ = _
    rw [firstsBy_append_of_not_mem hkey, List.map_append, ← List.append_assoc,
      vertex_of_not_contains hundeclared]
    rfl
  · obtain ⟨rest, hrest⟩ := exists_firstsBy_append_cons hkey (m.undeclaredNames restArcs)
    refine ⟨rest.map .undeclared, ?_⟩
    rw [vertices, placedVertices, undeclaredVertices, harcs,
      undeclaredNames_append_of_dangles hdangles, hrest, List.map_append, List.map_cons,
      ← List.append_assoc, vertex_of_not_contains hundeclared]
    rfl

/-! ## States that share an identifier -/

theorem placedVertices_nil (es : List (String × MachineState)) :
    m.placedVertices es [] = stateVertices es :=
  List.append_nil _

theorem mem_placedNames_append :
    name ∈ m.placedNames (es ++ [e]) [] ↔ name = e.1 ∨ name ∈ m.placedNames es [] := by
  simp [placedNames, undeclaredNames, or_comm]

theorem stateVertices_append_of_mem (h : entryId e ∈ es.map entryId) :
    stateVertices (es ++ [e]) = stateVertices es := by
  rw [stateVertices, firstsBy_append_of_mem h]
  rfl

theorem stateVertices_append_of_not_mem (h : entryId e ∉ es.map entryId) :
    stateVertices (es ++ [e]) = stateVertices es ++ [.state (entryId e)] := by
  rw [stateVertices, firstsBy_append_of_not_mem h, List.map_append]
  rfl

theorem entryClasses_append_of_mem (h : entryId e ∈ es.map entryId) :
    entryClasses rules (es ++ [e]) = entryClasses rules es := by
  rw [entryClasses, firstsBy_append_of_mem h]
  rfl

theorem entryClasses_append_of_not_mem (h : entryId e ∉ es.map entryId) :
    entryClasses rules (es ++ [e])
      = withMembers (entryClasses rules es) ((rules.forState? e.2).map (·.1)).toList := by
  rw [entryClasses, firstsBy_append_of_not_mem h, List.filterMap_append, List.filterMap_cons,
    List.filterMap_nil, withMembers, List.foldl_append]
  cases rules.forState? e.2 <;> rfl

theorem vertexNode_of_mem_drawnStates (h : e ∈ m.drawnStates) :
    m.vertexNode rules (.state (entryId e)) = entryNode rules e := by
  rw [vertexNode, find?_of_mem_firstsBy h]
  rfl

/-- A state with a new identifier is drawn, and it is next. -/
theorem vertices_eq_of_not_mem (hentries : m.states.entries = es ++ e :: restStates)
    (h : entryId e ∉ es.map entryId) :
    e ∈ m.drawnStates ∧ ∃ rest, m.vertices = stateVertices es ++ .state (entryId e) :: rest := by
  obtain ⟨rest, hrest⟩ := exists_firstsBy_append_cons h restStates
  rw [← hentries] at hrest
  constructor
  · rw [drawnStates, hrest]
    exact List.mem_append_right _ List.mem_cons_self
  · refine ⟨rest.map (fun e => .state (entryId e)) ++ m.undeclaredVertices m.arcs, ?_⟩
    rw [vertices, placedVertices, stateVertices, hrest, List.map_append, List.map_cons,
      List.append_assoc]
    rfl

/-! ## All vertices -/

theorem mem_vertices_of_mem_ends (ha : a ∈ m.arcs) (hv : v ∈ m.ends a) : v ∈ m.vertices := by
  rcases List.mem_cons.mp hv with rfl | hv
  · exact vertex_state_mem ha
  · obtain rfl := List.mem_singleton.mp hv
    rw [vertices, ← mem_placedNames_iff, placedNames, List.mem_append]
    by_cases h : m.states.contains a.transition.target = true
    · exact .inl (Dict.contains_iff.mp h)
    · exact .inr (mem_undeclaredNames.mpr ⟨h, a, ha, rfl⟩)

theorem nodup_vertices (m : Machine) : m.vertices.Nodup := by
  have hstates : (stateVertices m.states.entries).Nodup := by
    have h : ((m.drawnStates.map entryId).map Vertex.state).Nodup :=
      List.Nodup.map (fun _ _ => Vertex.state.inj) (nodup_map_firstsBy _)
    rwa [List.map_map] at h
  have hundeclared : (m.undeclaredVertices m.arcs).Nodup :=
    List.Nodup.map (fun _ _ => Vertex.undeclared.inj) (nodup_firstsBy_self _)
  refine List.nodup_append.mpr ⟨hstates, hundeclared, ?_⟩
  rintro v hv _ hv' rfl
  obtain ⟨name, -, rfl⟩ := List.mem_map.mp hv'
  exact undeclared_not_mem_stateVertices hv

theorem state_mem_vertices (he : e ∈ m.drawnStates) : .state (entryId e) ∈ m.vertices :=
  List.mem_append_left _ (List.mem_map_of_mem he)

/-- States that are not declared are out of the picture where none of them counts. -/
theorem filter_vertices {p : Vertex → Bool}
    (hp : ∀ name ∈ m.undeclaredNames m.arcs, p (.undeclared name) = false) :
    m.vertices.filter p = (m.drawnStates.filter fun e => p (.state (entryId e))).map
      fun e => .state (entryId e) := by
  have hundeclared : (m.undeclaredVertices m.arcs).filter p = [] := by
    apply List.filter_eq_nil_iff.mpr
    intro v hv
    obtain ⟨name, hname, rfl⟩ := List.mem_map.mp hv
    simp [hp name (mem_firstsBy_self.mp hname)]
  rw [vertices, placedVertices, List.filter_append, hundeclared, List.append_nil, stateVertices,
    List.filter_map]
  rfl

/-- A vertex that is mentioned first is written as its node is declared. -/
theorem declaration_vertexNode (v : Vertex) :
    (m.vertexNode rules v).declaration = m.vertexText (rules.styling s) v := by
  cases v with
  | undeclared name => rfl
  | state id =>
    rw [vertexNode, vertexText]
    cases m.states.entries.find? fun e => entryId e == id with
    | none => rfl
    | some e => rfl

end Machine

end Flowchart
