import Flowchart.Machine.Chart
import Flowchart.Proofs.Firsts

/-!
# The text of a machine, read off the machine

The text of a machine can be told without a chart and without keeping track of what has been
mentioned: from its states and transitions, from what its tags set, and from how its states are
styled (`Machine.directText`). Where a state is mentioned first is told by the transitions before.
-/

namespace Flowchart

/-- How the states of a machine are styled: the class and the shape that a rule gives to a state,
and what each class is. Two states have one class if the classes are the same `κ`, whatever these
are called. -/
structure Styling (κ : Type) where
  rule : MachineState → Option (κ × Option Shape)
  style : κ → ClassStyle

/-- The styling by rules whose class styles are in a store. -/
def InstalledTable.styling (rules : InstalledTable) (s : Store) : Styling ClassId where
  rule := rules.forState?
  style := s.classStyle

/-- The tag by which a table has a rule for a state: its type, or the first of its tags that has
one. -/
def StyleTable.tagFor? (t : StyleTable) (s : MachineState) : Option String :=
  (s.kind.toList ++ s.tags).find? t.contains

/-- The styling by a table, where each rule has a class of its own, which goes by its tag. -/
def StyleTable.styling (t : StyleTable) : Styling String where
  rule s := do
    let tag ← t.tagFor? s
    let rule ← t.get? tag
    some (tag, rule.shape)
  style tag := ((t.get? tag).getD default).style

/-- What a transition may lead to: the states that share an identifier, or a state that is not
declared. -/
inductive Vertex where
  | state (id : String)
  | undeclared (name : String)
  deriving DecidableEq, Repr

/-- The identifier of a vertex. -/
def Vertex.id : Vertex → String
  | state id => id
  | undeclared name => Text.stateNodeId name

/-- The line of a transition, with its arrowhead. -/
def LineStyle.arrow : LineStyle → String
  | solid => "-->"
  | dotted => "-.->"
  | thick => "==>"

/-- What stands between an arrow and its target. -/
def Transition.label (t : Transition) : String :=
  match t.description with
  | some text => "|" ++ Text.quoteLabel text ++ "| "
  | none => " "

/-! ## What the tags set -/

namespace MachineSettings

variable (settings : MachineSettings)

/-- The members of the object in the line about the settings. -/
def initMembers : List (String × Json.Value) :=
  (settings.theme.toList.map fun theme => ("theme", .string theme))
    ++ (if settings.themeVariables = [] then []
      else [("themeVariables",
        .object ((Dict.ofList settings.themeVariables).map fun _ value => .string value).entries)])
    ++ (settings.curve.toList.map fun curve =>
      ("flowchart", .object [("curve", .string curve.name)]))

/-- The line about the curve, the variables and the theme, if one of them is set. -/
def initLines : List String :=
  if settings.curve = none ∧ settings.themeVariables = [] ∧ settings.theme = none then []
  else ["%%\x7binit: " ++ (Json.Value.object settings.initMembers).compact ++ "\x7d%%"]

/-- The line about the direction. -/
def headerLine : String :=
  "flowchart " ++ (settings.direction.getD .topBottom).name

end MachineSettings

namespace Machine

variable {κ : Type} (m : Machine) (g : Styling κ)

/-! ## States -/

/-- The identifier of a state by its name. -/
def entryId (e : String × MachineState) : String :=
  Text.stateNodeId e.1

/-- The states that are drawn: of those that share an identifier, the first. -/
def drawnStates : List (String × MachineState) :=
  firstsBy entryId m.states.entries

/-- The class of a state. -/
def entryClass (e : String × MachineState) : Option κ :=
  (g.rule e.2).map (·.1)

/-- A state with its label, the description or else the name, in the brackets of its shape. -/
def entryText (e : String × MachineState) : String :=
  let label := e.2.description.getD e.1
  if label = "" then entryId e
  else entryId e
    ++ (((g.rule e.2).bind (·.2)).getD .rect).wrap (Text.quoteLabel label)

/-! ## Transitions -/

/-- What a name stands for. -/
def vertex (name : String) : Vertex :=
  if m.states.contains name then .state (Text.stateNodeId name) else .undeclared name

/-- The vertices that a transition mentions, in reading order. -/
def ends (a : Arc) : List Vertex :=
  [m.vertex a.state, m.vertex a.transition.target]

/-- A vertex as it is mentioned first: a state that is not declared has no label. -/
def vertexText : Vertex → String
  | .state id => ((m.states.entries.find? fun e => entryId e == id).map (entryText g)).getD id
  | .undeclared name => Text.stateNodeId name

/-- A vertex after some have been mentioned. -/
def mentionText (before : List Vertex) (v : Vertex) : String :=
  if v ∈ before then v.id else m.vertexText g v

/-- The line of a transition, given those before it. -/
def arcLine (line : LineStyle) (earlier : List Arc) (a : Arc) : String :=
  let before := earlier.flatMap m.ends
  m.mentionText g before (m.vertex a.state) ++ " " ++ line.arrow ++ a.transition.label
    ++ m.mentionText g (before ++ [m.vertex a.state]) (m.vertex a.transition.target)

/-- The lines of all transitions. -/
def arcLines (line : LineStyle) : List String :=
  m.arcs.mapIdx fun i a => m.arcLine g line (m.arcs.take i) a

/-- The lines of the states that no transition mentions. -/
def isolatedLines : List String :=
  (m.drawnStates.filter fun e => .state (entryId e) ∉ m.arcs.flatMap m.ends).map (entryText g)

/-! ## Classes -/

variable [DecidableEq κ]

/-- The classes of the states that are drawn, in the order of first use. -/
def usedClasses : List κ :=
  firstsBy (fun k => k) (m.drawnStates.filterMap (entryClass g))

/-- The definition of a class, and the states that have it. -/
def classLines (k : κ) : List String :=
  ["classDef " ++ (g.style k).name ++ " " ++ (g.style k).properties.declarations,
    "class "
      ++ ",".intercalate ((m.drawnStates.filter fun e => entryClass g e = some k).map entryId)
      ++ " " ++ (g.style k).name]

/-! ## The text -/

/-- The lines of a machine. -/
def directLines (settings : MachineSettings) : List String :=
  ["---", "title: " ++ m.id, "---"] ++ settings.initLines ++ [settings.headerLine]
    ++ m.arcLines g settings.line ++ m.isolatedLines g
    ++ (m.usedClasses g).flatMap (m.classLines g) ++ ["linkStyle default stroke:#fff"]

/-- The text of a machine, given what its tags set and how its states are styled. -/
def directText (settings : MachineSettings) : String :=
  "\n".intercalate (m.directLines g settings)

end Machine

end Flowchart
