import Flowchart.Keyword.Basic

/-! # Arrowheads and lines

An edge is drawn as a line of glyphs with an arrowhead, or none, at each end.
-/

namespace Flowchart

/-- The two ends of an edge. -/
inductive End where
  | source
  | target
  deriving DecidableEq, Repr

/-- The arrowhead at one end of an edge. -/
inductive ArrowStyle where
  | pointed
  | round
  | cross
  deriving DecidableEq, Repr, Inhabited

namespace ArrowStyle

/-- The name of an arrowhead; the pointed one is the default. -/
def name : ArrowStyle → String
  | pointed => "default"
  | round => "round"
  | cross => "cross"

instance : Keyword ArrowStyle where
  kind := "arrow style"
  members := [pointed, round, cross]
  name := name

theorem ofName?_name (s : ArrowStyle) : Keyword.ofName? s.name = some s := by
  cases s <;> decide

/-- The glyph of an arrowhead, which points away from the line. -/
def glyph : ArrowStyle → End → Char
  | pointed, .source => '<'
  | pointed, .target => '>'
  | round, _ => 'o'
  | cross, _ => 'x'

end ArrowStyle

/-- The stroke of the line of an edge. -/
inductive LineStyle where
  | solid
  | dotted
  | thick
  deriving DecidableEq, Repr, Inhabited

namespace LineStyle

/-- The name of a line; the solid one is the default. -/
def name : LineStyle → String
  | solid => "default"
  | dotted => "dotted"
  | thick => "thick"

instance : Keyword LineStyle where
  kind := "line style"
  members := [solid, dotted, thick]
  name := name

theorem ofName?_name (s : LineStyle) : Keyword.ofName? s.name = some s := by
  cases s <;> decide

/-- The glyph at a place of the line, counted from zero. -/
def glyph : LineStyle → Nat → Char
  | solid, _ => '-'
  | dotted, i => if i % 2 = 0 then '-' else '.'
  | thick, _ => '='

end LineStyle

end Flowchart
