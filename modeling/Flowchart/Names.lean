/-! # Generated names

A generator hands out the names `stub_0`, `stub_1`, and so on. Four generators run along with the
things that may be made without a name: nodes, classes, links and charts.
-/

namespace Flowchart

/-- A name of a generator. -/
def generatedName (stub : String) (n : Nat) : String :=
  stub ++ "_" ++ toString n

/-- A source of names. -/
structure Generator where
  stub : String
  /-- The number of names handed out so far. -/
  next : Nat := 0
  deriving DecidableEq, Repr, Inhabited

namespace Generator

/-- The next name, and the generator after it. -/
def draw (g : Generator) : String × Generator :=
  (generatedName g.stub g.next, { g with next := g.next + 1 })

/-- The next names, and the generator after them. -/
def take (g : Generator) : Nat → List String × Generator
  | 0 => ([], g)
  | n + 1 =>
    let (name, g) := g.draw
    let (names, g) := g.take n
    (name :: names, g)

end Generator

/-- What a name may be generated for. -/
inductive NameKind where
  | node
  | classStyle
  | link
  | chart
  deriving DecidableEq, Repr

/-- How many names of each kind have been handed out. -/
structure Names where
  nodes : Nat := 0
  classes : Nat := 0
  links : Nat := 0
  charts : Nat := 0
  deriving DecidableEq, Repr, Inhabited

namespace Names

/-- The beginning of the names of a kind. -/
def stub : NameKind → String
  | .node => "node"
  | .classStyle => "class"
  | .link => "link"
  | .chart => "subgraph"

/-- How many names of a kind have been handed out. -/
def drawn (n : Names) : NameKind → Nat
  | .node => n.nodes
  | .classStyle => n.classes
  | .link => n.links
  | .chart => n.charts

/-- The next name of a kind, and the counts after it. -/
def draw (n : Names) (s : NameKind) : String × Names :=
  (generatedName (stub s) (n.drawn s),
    match s with
    | .node => { n with nodes := n.nodes + 1 }
    | .classStyle => { n with classes := n.classes + 1 }
    | .link => { n with links := n.links + 1 }
    | .chart => { n with charts := n.charts + 1 })

/-- The name given, or the next one of a kind. -/
def nameOr (n : Names) (s : NameKind) : Option String → String × Names
  | some name => (name, n)
  | none => n.draw s

theorem drawn_draw (n : Names) (s t : NameKind) :
    (n.draw s).2.drawn t = if t = s then n.drawn t + 1 else n.drawn t := by
  cases s <;> cases t <;> rfl

end Names

end Flowchart
