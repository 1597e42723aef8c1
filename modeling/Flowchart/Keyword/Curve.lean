import Flowchart.Keyword.Basic

/-! # Edge curves -/

namespace Flowchart

/-- The curve along which the edges of a chart are drawn. -/
inductive Curve where
  | basis
  | bumpX
  | bumpY
  | cardinal
  | catmullRom
  | linear
  | monotoneX
  | monotoneY
  | natural
  | step
  | stepAfter
  | stepBefore
  deriving DecidableEq, Repr

namespace Curve

/-- The name of a curve. -/
def name : Curve → String
  | basis => "basis"
  | bumpX => "bumpX"
  | bumpY => "bumpY"
  | cardinal => "cardinal"
  | catmullRom => "catmullRom"
  | linear => "linear"
  | monotoneX => "monotoneX"
  | monotoneY => "monotoneY"
  | natural => "natural"
  | step => "step"
  | stepAfter => "stepAfter"
  | stepBefore => "stepBefore"

instance : Keyword Curve where
  kind := "curve"
  members := [basis, bumpX, bumpY, cardinal, catmullRom, linear, monotoneX, monotoneY, natural,
    step, stepAfter, stepBefore]
  name := name

theorem ofName?_name (c : Curve) : Keyword.ofName? c.name = some c := by
  cases c <;> decide

end Curve

end Flowchart
