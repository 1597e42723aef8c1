import Flowchart.Chart.Region

/-! # The script of a chart

The body of a chart is written in a fixed order: its edges, its nodes, then each subgraph in a
block of its own. The script is the list of what there is to write, without regard to what each
node looks like.

Playing the script is what depends on the past: a node is declared, with its text and shape, where
it is mentioned first, and is a bare identifier from then on. A node that is due by itself is left
out if it has been mentioned. At the end of a block the nodes of its chart count as not mentioned.
-/

namespace Flowchart

/-- What there is to write of the body of a chart. -/
inductive Event where
  /-- An edge, in a block or at the top. -/
  | edge (nested : Bool) (edge : EdgeId)
  /-- A node that the chart holds. -/
  | member (node : NodeId)
  /-- The beginning of the block of a subgraph. -/
  | opening (chart : ChartId)
  /-- The end of the block of a subgraph. -/
  | closing (chart : ChartId)
  deriving DecidableEq, Repr

namespace Region

mutual

/-- The script of a region. -/
def script (s : Store) (nested : Bool) : Region → List Event
  | mk c rs =>
    (s.chart c).edges.map (.edge nested) ++ (s.chart c).nodes.map .member ++ blocks s rs

/-- The blocks of some regions. -/
def blocks (s : Store) : List Region → List Event
  | [] => []
  | r :: rest => .opening r.chart :: (r.script s true ++ .closing r.chart :: blocks s rest)

end

end Region

/-! ## Mentions -/

/-- The nodes that have been mentioned and count as such. -/
abbrev Mentioned := List NodeId

/-- A place where a node is written, with its declaration or as a bare identifier. -/
structure Mention where
  node : NodeId
  declares : Bool
  deriving DecidableEq, Repr

/-- The mention of a node. -/
def Mentioned.mention (seen : Mentioned) (n : NodeId) : Mention :=
  ⟨n, decide (n ∉ seen)⟩

/-- The nodes mentioned once a node is. -/
def Mentioned.add (seen : Mentioned) (n : NodeId) : Mentioned :=
  if n ∈ seen then seen else n :: seen

/-- The nodes of a chart: those that it holds and the present ends of its edges. -/
def Store.nodesOf (s : Store) (c : ChartId) : List NodeId :=
  (s.chart c).nodes ++ (s.chart c).edges.flatMap fun e => (s.edge e).nodes

/-- The nodes mentioned once those of a chart count as not mentioned. -/
def Mentioned.release (seen : Mentioned) (s : Store) (c : ChartId) : Mentioned :=
  seen.filter fun n => decide (n ∉ s.nodesOf c)

theorem Mentioned.mem_add {seen : Mentioned} {n m : NodeId} :
    m ∈ seen.add n ↔ m = n ∨ m ∈ seen := by
  unfold Mentioned.add
  split
  · next h => exact ⟨Or.inr, fun h' => h'.elim (fun e => e ▸ h) id⟩
  · exact List.mem_cons

theorem Mentioned.mem_release {seen : Mentioned} {s : Store} {c : ChartId} {m : NodeId} :
    m ∈ seen.release s c ↔ m ∈ seen ∧ m ∉ s.nodesOf c := by
  simp [Mentioned.release]

/-! ## Playing -/

/-- A statement of the body of a chart. -/
inductive BodyLine where
  | edge (nested : Bool) (edge : EdgeId) (source target : Mention)
  | node (mention : Mention)
  | opening (chart : ChartId)
  | closing (chart : ChartId)
  deriving DecidableEq, Repr

/-- What an event writes, and the nodes mentioned after it. -/
def Event.play (s : Store) (seen : Mentioned) : Event → Option BodyLine × Mentioned
  | edge nested e =>
    let source := (s.edge e).source.node
    let target := (s.edge e).target.node
    let after := seen.add source
    (some (.edge nested e (seen.mention source) (after.mention target)), after.add target)
  | member n => if n ∈ seen then (none, seen) else (some (.node (seen.mention n)), seen.add n)
  | opening c => (some (.opening c), seen)
  | closing c => (some (.closing c), seen.release s c)

/-- What a script writes, and the nodes mentioned after it. -/
def playAll (s : Store) : Mentioned → List Event → List BodyLine × Mentioned
  | seen, [] => ([], seen)
  | seen, e :: rest =>
    let (line, after) := e.play s seen
    let (lines, last) := playAll s after rest
    (line.toList ++ lines, last)

theorem playAll_append (s : Store) (seen : Mentioned) (es fs : List Event) :
    playAll s seen (es ++ fs) =
      ((playAll s seen es).1 ++ (playAll s (playAll s seen es).2 fs).1,
        (playAll s (playAll s seen es).2 fs).2) := by
  induction es generalizing seen with
  | nil => simp [playAll]
  | cons e rest ih => simp [playAll, ih]

end Flowchart
