import Flowchart.Decimal.Double
import Flowchart.Json.Value

/-! # The steps of a session

A session builds charts step by step. A step names the things that it works on by handles, and a
step that makes a thing gives it a handle. Names of closed sets are given as texts and looked up by
the step, which may refuse them.
-/

namespace Flowchart

/-- The name by which a session calls a thing. -/
abbrev Handle := String

/-- A step about one node. -/
inductive NodeStep where
  | state
  | text (text : String)
  /-- A shape by its name; none for the default one. -/
  | shape (name : Option String)
  | classStyle (style : Option Handle)
  | hasClass (style : Handle)
  | render
  /-- The node counts as not mentioned. -/
  | reset

/-- A step about one edge. -/
inductive EdgeStep where
  | state
  /-- A new source or target, with or without an arrowhead of a named style. -/
  | source (node : Handle) (arrow : Bool) (style : Option String)
  | target (node : Handle) (arrow : Bool) (style : Option String)
  | depth (depth : Nat)
  | line (name : String)
  | label (text : Option String)
  | link (style : Option Handle)
  | connector
  | render

/-- A step about one class style. Properties go by their keys. -/
inductive ClassStep where
  | set (property : String) (value : Option String)
  | get (property : String)
  | render

/-- A step about one link style. -/
inductive LinkStep where
  | set (property : String) (value : Option String)
  /-- The text for a target: the number of an edge, or the word for all edges without a style. -/
  | render (target : String)

/-- A step about one directive. -/
inductive DirectiveStep where
  | theme (name : Option String)
  | font (name : Option String)
  /-- A curve by its name; none takes it out. -/
  | curve (name : Option String)
  /-- Layout options, all or none. -/
  | options (options : List (String × Json.Value))
  | getOption (key : String)
  | themeVariables (entries : List (String × String))
  | getVariable (key : String)

/-- An end of a connection: a handle of a node, or a text that stands for a node. -/
inductive TerminalHandle where
  | node (node : Handle)
  | text (text : String)

/-- The lists of things that a chart holds. -/
inductive Membership where
  | node
  | edge
  | classStyle
  | directive
  | subgraph
  deriving DecidableEq, Repr

/-- A step that changes one chart. -/
inductive ChartStep where
  /-- Adds things of one kind, by their handles. -/
  | add (list : Membership) (members : List Handle)
  | connect (a b : TerminalHandle) (depth : Nat)
  | direction (name : String)
  | named (name : String)
  | style (style : Option Handle)
  | defaultClass (style : Option Handle)
  | defaultLink (style : Option Handle)

/-- A step that asks about one chart. -/
inductive ChartQuery where
  | state
  /-- The first node of an identifier, and a handle for it. -/
  | findNode (id : String) (as : Option Handle)
  /-- The member at a place, and a handle for it. -/
  | member (list : Membership) (index : Nat) (as : Handle)

/-- Which style table a machine is drawn with. -/
inductive TableSource where
  | builtIn
  | empty
  | text (text : String)
  deriving DecidableEq, Repr

/-- A step of a session. -/
inductive Step where
  | newNode (as : Handle) (id text : String)
  | copyNode (as source : Handle) (id : Option String)
  | node (node : Handle) (step : NodeStep)
  | newEdge (as source target : Handle) (depth : Option Decimal.Double)
  | edge (edge : Handle) (step : EdgeStep)
  | newClass (as : Handle) (name declarations : String)
  | copyClass (as source : Handle) (name : Option String)
  | classStyle (style : Handle) (step : ClassStep)
  | newLink (as : Handle) (name declarations : String)
  | copyLink (as source : Handle) (name : Option String)
  | link (style : Handle) (step : LinkStep)
  | newDirective (as : Handle)
  | directive (directive : Handle) (step : DirectiveStep)
  | newChart (as : Handle)
  /-- A chart of its own with the members of another one. -/
  | copyChart (as source : Handle)
  /-- A second handle for a chart. -/
  | aliasChart (as source : Handle)
  | buildChart (as : Handle) (machine : String) (styles : TableSource)
  | chart (chart : Handle) (step : ChartStep)
  | query (chart : Handle) (query : ChartQuery)
  | render (chart : Handle)
  /-- Tells whether two handles of one kind name the same thing. -/
  | same (a b : Handle)
  | newGenerator (as : Handle) (stub : String)
  | nextName (generator : Handle)
  | nextNames (generator : Handle) (count : Nat)

end Flowchart
