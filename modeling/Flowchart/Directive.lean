import Flowchart.Dict
import Flowchart.Keyword.Curve
import Flowchart.Keyword.FlowchartOption
import Flowchart.Refusal

/-! # Directives

A directive sets the theme, the font, theme variables and layout options of a chart, and is written
as one line of JSON. A layout option may have any value, but the curve has to name a curve.
-/

namespace Flowchart

/-- A directive. -/
structure Directive where
  theme : Option String := none
  fontFamily : Option String := none
  themeVariables : Dict String := {}
  options : Dict Json.Value := {}
  deriving Inhabited

namespace Directive

/-- The key of the curve among the layout options. -/
def curveKey : String :=
  FlowchartOption.curve.name

/-- Sets the curve, or takes it out. -/
def setCurve (d : Directive) : Option Curve → Directive
  | some c => { d with options := d.options.insert curveKey (.string c.name) }
  | none => { d with options := d.options.erase curveKey }

/-- The curve, if one is set. -/
def curve (d : Directive) : Option Curve := do
  let value ← d.options.get? curveKey
  let name ← value.string?
  Keyword.ofName? name

/-- Checks a layout option: its key has to be known, and a curve has to name one. -/
def checkOption (key : String) (value : Json.Value) :
    Except Refusal (FlowchartOption × Json.Value) := do
  let option ← parseKeyword FlowchartOption key
  if option = .curve ∧ (Keyword.ofName? (α := Curve) (value.string?.getD "")).isNone then
    .error (.unknownName (Keyword.unknown Curve value.compact))
  else .ok (option, value)

/-- Checks layout options in order. -/
def checkOptions : List (String × Json.Value) →
    Except Refusal (List (FlowchartOption × Json.Value))
  | [] => .ok []
  | (key, value) :: rest => do .ok ((← checkOption key value) :: (← checkOptions rest))

/-- Sets layout options: all of them, or none if one is refused. -/
def setOptions (d : Directive) (options : List (String × Json.Value)) :
    Except Refusal Directive := do
  let checked ← checkOptions options
  .ok { d with options := d.options.insertAll (checked.map fun e => (e.1.name, e.2)) }

/-- Sets theme variables. -/
def setVariables (d : Directive) (entries : List (String × String)) : Directive :=
  { d with themeVariables := d.themeVariables.insertAll entries }

/-! ## Text -/

/-- A member of an object whose value is a string, if it is set. -/
def textMember (key : String) : Option String → List (String × Json.Value)
  | some s => [(key, .string s)]
  | none => []

/-- A member of an object whose value is a dictionary, if that has entries. -/
def dictMember (key : String) (d : Dict Json.Value) : List (String × Json.Value) :=
  if d.entries = [] then [] else [(key, .object d.entries)]

/-- The object of what is set. -/
def toJson (d : Directive) : Json.Value :=
  .object (textMember "theme" d.theme ++ textMember "fontFamily" d.fontFamily
    ++ dictMember "themeVariables" (d.themeVariables.map fun _ s => .string s)
    ++ dictMember "flowchart" d.options)

/-- The line of the directive. -/
def text (d : Directive) : String :=
  "%%\x7binit: " ++ d.toJson.compact ++ "\x7d%%"

end Directive

end Flowchart
