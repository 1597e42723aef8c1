import Flowchart.Keyword.Basic

/-! # Directions -/

namespace Flowchart

/-- The direction in which the ranks of a chart follow each other. -/
inductive Direction where
  | topBottom
  | bottomTop
  | leftRight
  | rightLeft
  deriving DecidableEq, Repr, Inhabited

namespace Direction

/-- The two letters of a direction. -/
def name : Direction → String
  | topBottom => "TB"
  | bottomTop => "BT"
  | leftRight => "LR"
  | rightLeft => "RL"

/-- The spellings that are read, in capitals; `TD` is a second spelling of `TB`. -/
def spellings : List (String × Direction) :=
  [("TB", topBottom), ("TD", topBottom), ("BT", bottomTop), ("LR", leftRight), ("RL", rightLeft)]

/-- The text with its ASCII letters in capitals. -/
def capitals (text : String) : String :=
  String.ofList (text.toList.map Char.toUpper)

/-- A direction is read without regard to the case of its ASCII letters. -/
instance : Keyword Direction where
  kind := "direction"
  members := [topBottom, bottomTop, leftRight, rightLeft]
  name := name
  accepted := spellings.map (·.1)
  ofName? := fun text => spellings.lookup (capitals text)

theorem ofName?_name (d : Direction) : Keyword.ofName? d.name = some d := by
  cases d <;> decide

end Direction

end Flowchart
