import Flowchart.Keyword.Curve
import Flowchart.Keyword.Direction
import Flowchart.Keyword.Stroke
import Flowchart.Machine.Basic
import Flowchart.Refusal
import Flowchart.Text.Blank
import Flowchart.Text.Split

/-! # What the tags of a machine set

A tag of a machine is a setting if it begins with `curve:`, `var:`, `theme:` or `direction:`, or if
it holds `link` somewhere and a colon; the first of these that fits decides. Any other tag is
neutral. Of two settings of one kind the later one wins, but variables add up.
-/

namespace Flowchart

/-- A tag of a machine by what it sets. -/
inductive Tag where
  /-- The curve of a name. -/
  | curve (name : String)
  /-- Variables, in segments `key=value`. -/
  | themeVariables (segments : List (List Char))
  /-- The theme of a name. -/
  | theme (name : String)
  /-- The direction of a name. -/
  | direction (name : String)
  /-- The line style of a name. -/
  | line (name : String)
  /-- Nothing. -/
  | neutral
  deriving DecidableEq, Repr

/-- A text without the blanks at its ends. -/
def trimmed (cs : List Char) : String :=
  String.ofList (Text.trim cs)

/-- The segments of a variable tag: the parts between colons, trimmed, but for the blank ones. -/
def variableSegments (cs : List Char) : List (List Char) :=
  ((cs.splitOn ':').map Text.trim).filter (fun segment => !segment.isEmpty)

/-- The name in a tag about links: the part after its first colon, if it has one. -/
def linkTag (cs : List Char) : Tag :=
  match (cs.splitOn ':')[1]? with
  | some name => .line (trimmed name)
  | none => .neutral

/-- What a tag sets. -/
def Tag.ofText (tag : String) : Tag :=
  let cs := tag.toList
  if let some name := "curve:".toList.isPrefixOf? cs then .curve (trimmed name)
  else if let some rest := "var:".toList.isPrefixOf? cs then .themeVariables (variableSegments rest)
  else if let some name := "theme:".toList.isPrefixOf? cs then .theme (trimmed name)
  else if let some name := "direction:".toList.isPrefixOf? cs then .direction (trimmed name)
  else if Text.holdsWord "link".toList cs then linkTag cs
  else .neutral

/-- The settings of a machine. -/
structure MachineSettings where
  curve : Option Curve := none
  themeVariables : List (String × String) := []
  theme : Option String := none
  direction : Option Direction := none
  line : LineStyle := .solid
  deriving DecidableEq, Repr

namespace MachineSettings

/-- The variable of a segment: what stands before and after the first equals sign, trimmed, where
something has to stand before it. -/
def readVariable? (segment : List Char) : Option (String × String) :=
  match Text.splitFirst? '=' segment with
  | some (key, value) =>
    if Text.trim key = [] then none else some (trimmed key, trimmed value)
  | none => none

/-- The variables of some segments of a tag. -/
def readVariables (tag : String) : List (List Char) → Except Refusal (List (String × String))
  | [] => .ok []
  | segment :: rest =>
    match readVariable? segment with
    | some v => do .ok (v :: (← readVariables tag rest))
    | none => .error (.badTag tag (String.ofList segment))

/-- The settings after one more tag. -/
def add (s : MachineSettings) (tag : String) : Except Refusal MachineSettings :=
  match Tag.ofText tag with
  | .curve name => do .ok { s with curve := some (← parseKeyword Curve name) }
  | .themeVariables segments => do
    .ok { s with themeVariables := s.themeVariables ++ (← readVariables tag segments) }
  | .theme name => .ok { s with theme := some name }
  | .direction name => do .ok { s with direction := some (← parseKeyword Direction name) }
  | .line name => do .ok { s with line := ← parseKeyword LineStyle name }
  | .neutral => .ok s

/-- The settings of some tags; the first tag that cannot be read is refused. -/
def ofTags (tags : List String) : Except Refusal MachineSettings :=
  tags.foldlM add {}

end MachineSettings

end Flowchart
