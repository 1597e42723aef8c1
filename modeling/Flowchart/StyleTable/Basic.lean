import Flowchart.Keyword.Shape
import Flowchart.Machine.Basic
import Flowchart.Style

/-! # Style tables

A style table gives the states of a machine their class and their shape. A state is looked up by
its type, and if the table has no rule for that, by its tags in order.
-/

namespace Flowchart

/-- The class of a state, and its shape if it has one of its own. -/
structure StyleRule where
  style : ClassStyle
  shape : Option Shape := none
  deriving DecidableEq, Repr, Inhabited

/-- Rules by the tag or the type of a state. -/
abbrev StyleTable := Dict StyleRule

/-- The first of some tags that a dictionary has an entry for. -/
def Dict.firstOf? {α : Type} (d : Dict α) (tags : List String) : Option α :=
  tags.findSome? d.get?

/-- The entry of a dictionary for a state: that of its type, or of the first of its tags. -/
def Dict.forState? {α : Type} (d : Dict α) (s : MachineState) : Option α :=
  match s.kind.bind d.get? with
  | some a => some a
  | none => d.firstOf? s.tags

namespace StyleTable

/-- A double circle in reverse for states where the machine ends. -/
def finalRule : StyleRule :=
  ⟨⟨"final", { fill := some "#1f2937", stroke := some "#fff", strokeWidth := some "3px" }⟩,
    some .doubleCircle⟩

/-- A dashed circle for states that go back to an earlier one. -/
def historyRule : StyleRule :=
  ⟨⟨"history", { strokeDash := some "4 2" }⟩, some .circle⟩

/-- A bold double frame for states with parallel regions. -/
def parallelRule : StyleRule :=
  ⟨⟨"parallel", { strokeWidth := some "2px" }⟩, some .subroutine⟩

/-- The built-in rules. -/
def builtIn : StyleTable :=
  .ofList [("final", finalRule), ("history", historyRule), ("parallel", parallelRule)]

end StyleTable

end Flowchart
