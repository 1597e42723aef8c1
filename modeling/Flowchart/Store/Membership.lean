import Flowchart.Store.Basic

/-! # What a chart holds

A chart holds each thing at most once, in the order in which things joined. Adding what is there
already changes nothing. An edge that joins brings the nodes of its ends along, and a subgraph its
nodes and its class styles; a chart never becomes a subgraph of itself.
-/

namespace Flowchart

/-- A list with one more member, unless it is there. -/
def withMember {α : Type} [DecidableEq α] (xs : List α) (x : α) : List α :=
  if x ∈ xs then xs else xs ++ [x]

/-- A list with more members. -/
def withMembers {α : Type} [DecidableEq α] (xs ys : List α) : List α :=
  ys.foldl withMember xs

section Members

variable {α : Type} [DecidableEq α]

theorem mem_withMember {xs : List α} {x y : α} : y ∈ withMember xs x ↔ y ∈ xs ∨ y = x := by
  unfold withMember
  split
  · next h => exact ⟨Or.inl, fun h' => h'.elim id (fun e => e ▸ h)⟩
  · simp

theorem nodup_withMember {xs : List α} (h : xs.Nodup) (x : α) : (withMember xs x).Nodup := by
  unfold withMember
  split
  · exact h
  · next hx =>
    rw [List.nodup_append]
    refine ⟨h, by simp, ?_⟩
    intro a ha b hb hab
    rw [List.mem_singleton] at hb
    exact hx (hb ▸ hab ▸ ha)

theorem mem_withMembers {xs ys : List α} {y : α} : y ∈ withMembers xs ys ↔ y ∈ xs ∨ y ∈ ys := by
  unfold withMembers
  induction ys generalizing xs with
  | nil => simp
  | cons z zs ih => rw [List.foldl_cons, ih, mem_withMember, List.mem_cons, or_assoc]

theorem nodup_withMembers {xs : List α} (h : xs.Nodup) (ys : List α) :
    (withMembers xs ys).Nodup := by
  unfold withMembers
  induction ys generalizing xs with
  | nil => exact h
  | cons z zs ih => exact ih (nodup_withMember h z)

end Members

namespace Chart

/-- A chart with more nodes. -/
def addNodes (c : Chart) (ns : List NodeId) : Chart :=
  { c with nodes := withMembers c.nodes ns }

/-- A chart with more class styles. -/
def addClasses (c : Chart) (ks : List ClassId) : Chart :=
  { c with classes := withMembers c.classes ks }

/-- A chart with more directives. -/
def addDirectives (c : Chart) (ds : List DirectiveId) : Chart :=
  { c with directives := withMembers c.directives ds }

/-- A chart with one more edge and its nodes, given what the edge is. -/
def addEdge (s : Store) (c : Chart) (e : EdgeId) : Chart :=
  if e ∈ c.edges then c
  else { c with nodes := withMembers c.nodes (s.edge e).nodes, edges := c.edges ++ [e] }

/-- A chart with more edges. -/
def addEdges (s : Store) (c : Chart) (es : List EdgeId) : Chart :=
  es.foldl (addEdge s) c

/-- A chart, which stands at `self`, with one more subgraph, its nodes and its class styles. -/
def addSubgraph (s : Store) (self : ChartId) (c : Chart) (sub : ChartId) : Chart :=
  if sub = self ∨ sub ∈ c.subgraphs then c
  else
    { c with
      nodes := withMembers c.nodes (s.chart sub).nodes
      classes := withMembers c.classes (s.chart sub).classes
      subgraphs := c.subgraphs ++ [sub] }

/-- A chart, which stands at `self`, with more subgraphs. -/
def addSubgraphs (s : Store) (self : ChartId) (c : Chart) (subs : List ChartId) : Chart :=
  subs.foldl (addSubgraph s self) c

end Chart

namespace Store

/-- The first node of a chart with an identifier. -/
def findNode? (s : Store) (c : ChartId) (id : String) : Option NodeId :=
  (s.chart c).nodes.find? fun n => (s.node n).id == id

end Store

end Flowchart
