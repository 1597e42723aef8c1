import Flowchart.Chart.Types

/-! # The store

The store holds every node, edge, class style, directive and chart at the place that its reference
names. Things are only ever added at the end, so a reference stays good. A reference to a place
that is not there reads as a default thing, and writing to it changes nothing.
-/

namespace Flowchart

/-- Things of one kind by their places. -/
structure Shelf (α : Type) where
  items : Array α := #[]
  deriving Inhabited

namespace Shelf

variable {α : Type}

/-- The thing at a place. -/
def get [Inhabited α] (s : Shelf α) (i : Nat) : α :=
  s.items[i]?.getD default

/-- Changes the thing at a place. -/
def set (s : Shelf α) (i : Nat) (a : α) : Shelf α :=
  ⟨s.items.setIfInBounds i a⟩

/-- Puts a thing at the end. -/
def push (s : Shelf α) (a : α) : Shelf α :=
  ⟨s.items.push a⟩

/-- The number of things, which is the place of the next one. -/
def size (s : Shelf α) : Nat :=
  s.items.size

@[simp]
theorem size_set (s : Shelf α) (i : Nat) (a : α) : (s.set i a).size = s.size := by
  simp [set, size]

@[simp]
theorem size_push (s : Shelf α) (a : α) : (s.push a).size = s.size + 1 := by
  simp [push, size]

theorem set_of_size_le {s : Shelf α} {i : Nat} (h : s.size ≤ i) (a : α) : s.set i a = s :=
  congrArg Shelf.mk (Array.setIfInBounds_eq_of_size_le h)

theorem set_set (s : Shelf α) (i : Nat) (a b : α) : (s.set i a).set i b = s.set i b :=
  congrArg Shelf.mk (Array.setIfInBounds_setIfInBounds a)

theorem set_push_self (s : Shelf α) (a b : α) : (s.push a).set s.size b = s.push b := by
  refine congrArg Shelf.mk ?_
  have hlt : s.items.size < (s.items.push a).size := by simp
  change (s.items.push a).setIfInBounds s.items.size b = s.items.push b
  rw [Array.setIfInBounds_def, dif_pos hlt, Array.set_push, dif_neg (Nat.lt_irrefl _)]

variable [Inhabited α]

theorem get_of_size_le {s : Shelf α} {i : Nat} (h : s.size ≤ i) : s.get i = default := by
  have h' : s.items.size ≤ i := h
  simp [get, h']

theorem get_set_self {s : Shelf α} {i : Nat} (h : i < s.size) (a : α) : (s.set i a).get i = a := by
  have h' : i < s.items.size := h
  simp [set, get, h']

theorem get_set_of_ne (s : Shelf α) {i j : Nat} (h : j ≠ i) (a : α) :
    (s.set i a).get j = s.get j := by
  simp [set, get, Array.getElem?_setIfInBounds_ne (Ne.symm h)]

theorem set_get_self (s : Shelf α) (i : Nat) : s.set i (s.get i) = s := by
  rcases Nat.lt_or_ge i s.size with h | h
  · have h' : i < s.items.size := h
    refine congrArg Shelf.mk ?_
    rw [get, Array.getElem?_eq_getElem h', Option.getD_some, Array.setIfInBounds_def, dif_pos h',
      Array.set_getElem_self]
  · exact set_of_size_le h _

theorem get_push (s : Shelf α) (a : α) (i : Nat) :
    (s.push a).get i = if i = s.size then a else s.get i := by
  by_cases h : i = s.size
  · subst h
    simp [push, get, size]
  · have h' : i ≠ s.items.size := h
    simp [push, get, Array.getElem?_push, h, h']

@[simp]
theorem get_push_self (s : Shelf α) (a : α) : (s.push a).get s.size = a := by
  rw [get_push, if_pos rfl]

theorem get_push_of_lt {s : Shelf α} {i : Nat} (h : i < s.size) (a : α) :
    (s.push a).get i = s.get i := by
  rw [get_push, if_neg (Nat.ne_of_lt h)]

/-- A change to what has just been written could have been made before writing it. -/
theorem set_get_set (s : Shelf α) (i : Nat) (a : α) (f : α → α) :
    (s.set i a).set i (f ((s.set i a).get i)) = s.set i (f a) := by
  rw [set_set]
  rcases Nat.lt_or_ge i s.size with h | h
  · rw [get_set_self h]
  · rw [set_of_size_le h, set_of_size_le h]

end Shelf

/-- Every node, edge, class style, directive and chart. -/
structure Store where
  nodes : Shelf Node := {}
  edges : Shelf Edge := {}
  classes : Shelf ClassStyle := {}
  directives : Shelf Directive := {}
  charts : Shelf Chart := {}
  deriving Inhabited

namespace Store

/-! ## Reading -/

/-- The node of a reference. -/
def node (s : Store) (n : NodeId) : Node := s.nodes.get n.index

/-- The edge of a reference. -/
def edge (s : Store) (e : EdgeId) : Edge := s.edges.get e.index

/-- The class style of a reference. -/
def classStyle (s : Store) (k : ClassId) : ClassStyle := s.classes.get k.index

/-- The directive of a reference. -/
def directive (s : Store) (d : DirectiveId) : Directive := s.directives.get d.index

/-- The chart of a reference. -/
def chart (s : Store) (c : ChartId) : Chart := s.charts.get c.index

/-! ## Writing -/

/-- Changes a node. -/
def setNode (s : Store) (n : NodeId) (x : Node) : Store :=
  { s with nodes := s.nodes.set n.index x }

/-- Changes an edge. -/
def setEdge (s : Store) (e : EdgeId) (x : Edge) : Store :=
  { s with edges := s.edges.set e.index x }

/-- Changes a class style. -/
def setClass (s : Store) (k : ClassId) (x : ClassStyle) : Store :=
  { s with classes := s.classes.set k.index x }

/-- Changes a directive. -/
def setDirective (s : Store) (d : DirectiveId) (x : Directive) : Store :=
  { s with directives := s.directives.set d.index x }

/-- Changes a chart. -/
def setChart (s : Store) (c : ChartId) (x : Chart) : Store :=
  { s with charts := s.charts.set c.index x }

/-! ## Adding -/

/-- Adds a node. -/
def newNode (s : Store) (x : Node) : NodeId × Store :=
  (⟨s.nodes.size⟩, { s with nodes := s.nodes.push x })

/-- Adds an edge. -/
def newEdge (s : Store) (x : Edge) : EdgeId × Store :=
  (⟨s.edges.size⟩, { s with edges := s.edges.push x })

/-- Adds a class style. -/
def newClass (s : Store) (x : ClassStyle) : ClassId × Store :=
  (⟨s.classes.size⟩, { s with classes := s.classes.push x })

/-- Adds a directive. -/
def newDirective (s : Store) (x : Directive) : DirectiveId × Store :=
  (⟨s.directives.size⟩, { s with directives := s.directives.push x })

/-- Adds a chart. -/
def newChart (s : Store) (x : Chart) : ChartId × Store :=
  (⟨s.charts.size⟩, { s with charts := s.charts.push x })

/-! ## Reading after writing and adding -/

theorem chart_setChart_self {s : Store} {c : ChartId} (h : c.index < s.charts.size) (x : Chart) :
    (s.setChart c x).chart c = x :=
  Shelf.get_set_self h x

@[simp]
theorem node_newNode_self (s : Store) (x : Node) : (s.newNode x).2.node (s.newNode x).1 = x :=
  Shelf.get_push_self s.nodes x

theorem node_newNode_of_lt {s : Store} {n : NodeId} (h : n.index < s.nodes.size) (x : Node) :
    (s.newNode x).2.node n = s.node n :=
  Shelf.get_push_of_lt h x

@[simp]
theorem edge_newEdge_self (s : Store) (x : Edge) : (s.newEdge x).2.edge (s.newEdge x).1 = x :=
  Shelf.get_push_self s.edges x

theorem edge_newEdge_of_lt {s : Store} {e : EdgeId} (h : e.index < s.edges.size) (x : Edge) :
    (s.newEdge x).2.edge e = s.edge e :=
  Shelf.get_push_of_lt h x

@[simp]
theorem classStyle_newClass_self (s : Store) (x : ClassStyle) :
    (s.newClass x).2.classStyle (s.newClass x).1 = x :=
  Shelf.get_push_self s.classes x

theorem classStyle_newClass_of_lt {s : Store} {k : ClassId} (h : k.index < s.classes.size)
    (x : ClassStyle) : (s.newClass x).2.classStyle k = s.classStyle k :=
  Shelf.get_push_of_lt h x

@[simp]
theorem chart_newChart_self (s : Store) (x : Chart) :
    (s.newChart x).2.chart (s.newChart x).1 = x :=
  Shelf.get_push_self s.charts x

end Store

end Flowchart
