import Flowchart.Keyword.Curve
import Flowchart.Keyword.Direction
import Flowchart.Keyword.FlowchartOption
import Flowchart.Keyword.Shape
import Flowchart.Keyword.Stroke

/-! # The vocabulary

Every closed set of names that a chart is described with, as a list of sections. A section has a
key, for listings that are read by programs, and a title, for those that are read by people.
-/

namespace Flowchart.Vocabulary

/-- One closed set of names. -/
structure Section where
  key : String
  title : String
  names : List String

/-- Every set, in the order in which they are listed. -/
def sections : List Section :=
  [⟨"shapes", "Shapes", Keyword.names Shape⟩,
   ⟨"directions", "Directions", Keyword.names Direction⟩,
   ⟨"curves", "Curves", Keyword.names Curve⟩,
   ⟨"arrow_styles", "Arrow styles", Keyword.names ArrowStyle⟩,
   ⟨"line_styles", "Line styles", Keyword.names LineStyle⟩,
   ⟨"flowchart_options", "Flowchart options", Keyword.names FlowchartOption⟩]

/-- The lines of one section: its title, then a name a line. -/
def Section.lines (s : Section) : List String :=
  (s.title ++ ":") :: s.names.map ("  " ++ ·)

/-- The listing for people: the sections with a blank line between them. -/
def listing : String :=
  "\n".intercalate (sections.map fun s => "\n".intercalate s.lines ++ "\n")

end Flowchart.Vocabulary
