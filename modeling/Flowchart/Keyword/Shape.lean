import Flowchart.Keyword.Basic

/-! # Node shapes

The shape of a node is written by the brackets around its text.
-/

namespace Flowchart

/-- The shapes of a node. -/
inductive Shape where
  | rect
  | round
  | stadium
  | subroutine
  | cylinder
  | circle
  | doubleCircle
  | asymmetric
  | rhombus
  | hexagon
  | parallelogram
  | parallelogramAlt
  | trapezoid
  | trapezoidAlt
  deriving DecidableEq, Repr, Inhabited

namespace Shape

/-- The name of a shape. -/
def name : Shape → String
  | rect => "rect"
  | round => "round"
  | stadium => "stadium"
  | subroutine => "subroutine"
  | cylinder => "cylinder"
  | circle => "circle"
  | doubleCircle => "double-circle"
  | asymmetric => "asymmetric"
  | rhombus => "rhombus"
  | hexagon => "hexagon"
  | parallelogram => "parallelogram"
  | parallelogramAlt => "parallelogram-alt"
  | trapezoid => "trapezoid"
  | trapezoidAlt => "trapezoid-alt"

instance : Keyword Shape where
  kind := "shape"
  members := [rect, round, stadium, subroutine, cylinder, circle, doubleCircle, asymmetric,
    rhombus, hexagon, parallelogram, parallelogramAlt, trapezoid, trapezoidAlt]
  name := name

theorem ofName?_name (s : Shape) : Keyword.ofName? s.name = some s := by
  cases s <;> decide

/-- A known shape is the one of its name. -/
theorem ofName?_eq_some_iff {name : String} {s : Shape} :
    Keyword.ofName? name = some s ↔ s.name = name := by
  constructor
  · intro h
    simpa using List.find?_some h
  · rintro rfl
    exact ofName?_name s

/-- The bracket before the text. -/
def opening : Shape → String
  | rect => "["
  | round => "("
  | stadium => "(["
  | subroutine => "[["
  | cylinder => "[("
  | circle => "(("
  | doubleCircle => "((("
  | asymmetric => ">"
  | rhombus => "\x7b"
  | hexagon => "\x7b\x7b"
  | parallelogram => "[/"
  | parallelogramAlt => "[\\"
  | trapezoid => "[/"
  | trapezoidAlt => "[\\"

/-- The bracket after the text. -/
def closing : Shape → String
  | rect => "]"
  | round => ")"
  | stadium => "])"
  | subroutine => "]]"
  | cylinder => ")]"
  | circle => "))"
  | doubleCircle => ")))"
  | asymmetric => "]"
  | rhombus => "\x7d"
  | hexagon => "\x7d\x7d"
  | parallelogram => "/]"
  | parallelogramAlt => "\\]"
  | trapezoid => "\\]"
  | trapezoidAlt => "/]"

/-- Puts a text, quoted where it needs to be, between the brackets of the shape. -/
def wrap (s : Shape) (text : String) : String :=
  s.opening ++ text ++ s.closing

end Shape

end Flowchart
