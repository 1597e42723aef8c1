import Flowchart.Text.Blank
import Flowchart.Text.Split

/-! # Styles

A style sets some of five properties, each to a free text. It is written as declarations
`key:value` joined by commas, always in the same order. Reading declarations skips those that are
malformed or have an unknown key, and a later declaration of a property wins.

A class style is a named style that nodes share; a link style is a style that an edge has a copy
of.
-/

namespace Flowchart

/-- The properties that a style may set. -/
inductive StyleProperty where
  | color
  | fill
  | stroke
  | strokeWidth
  | strokeDash
  deriving DecidableEq, Repr

namespace StyleProperty

/-- Every property, in the order in which they are declared. -/
def members : List StyleProperty :=
  [color, fill, stroke, strokeWidth, strokeDash]

/-- The key of a property in a declaration. -/
def key : StyleProperty → String
  | color => "color"
  | fill => "fill"
  | stroke => "stroke"
  | strokeWidth => "stroke-width"
  | strokeDash => "stroke-dasharray"

/-- The property of a key. -/
def ofKey? (text : String) : Option StyleProperty :=
  members.find? (fun p => p.key == text)

theorem ofKey?_key (p : StyleProperty) : ofKey? p.key = some p := by
  cases p <;> decide

end StyleProperty

/-- The values of the properties that are set. -/
structure StyleProperties where
  color : Option String := none
  fill : Option String := none
  stroke : Option String := none
  strokeWidth : Option String := none
  strokeDash : Option String := none
  deriving DecidableEq, Repr, Inhabited

namespace StyleProperties

/-- The value of a property. -/
def get (s : StyleProperties) : StyleProperty → Option String
  | .color => s.color
  | .fill => s.fill
  | .stroke => s.stroke
  | .strokeWidth => s.strokeWidth
  | .strokeDash => s.strokeDash

/-- Sets a property, or clears it. -/
def set (s : StyleProperties) (p : StyleProperty) (value : Option String) : StyleProperties :=
  match p with
  | .color => { s with color := value }
  | .fill => { s with fill := value }
  | .stroke => { s with stroke := value }
  | .strokeWidth => { s with strokeWidth := value }
  | .strokeDash => { s with strokeDash := value }

theorem get_set (s : StyleProperties) (p q : StyleProperty) (value : Option String) :
    (s.set p value).get q = if q = p then value else s.get q := by
  cases p <;> cases q <;> rfl

theorem ext_get {s t : StyleProperties} (h : ∀ p, s.get p = t.get p) : s = t := by
  obtain ⟨c, f, k, w, d⟩ := s
  obtain ⟨c', f', k', w', d'⟩ := t
  have h1 : c = c' := h .color
  have h2 : f = f' := h .fill
  have h3 : k = k' := h .stroke
  have h4 : w = w' := h .strokeWidth
  have h5 : d = d' := h .strokeDash
  subst h1 h2 h3 h4 h5
  rfl

/-- Tells whether no property is set. -/
def isEmpty (s : StyleProperties) : Bool :=
  StyleProperty.members.all fun p => (s.get p).isNone

/-- One declaration. -/
def declaration (p : StyleProperty) (value : String) : String :=
  p.key ++ ":" ++ value

/-- The declarations of the properties that are set, in order. -/
def declarationList (s : StyleProperties) : List String :=
  StyleProperty.members.filterMap fun p => (s.get p).map (declaration p)

/-- The declarations joined by commas. -/
def declarations (s : StyleProperties) : String :=
  ",".intercalate s.declarationList

/-- The property and the value of a declaration, if it is one. -/
def readDeclaration? (text : List Char) : Option (StyleProperty × String) := do
  let (key, value) ← Text.splitFirst? ':' text
  let p ← StyleProperty.ofKey? (String.ofList (Text.trim key))
  some (p, String.ofList (Text.trim value))

/-- Applies settings one after the other. -/
def setAll (s : StyleProperties) (settings : List (StyleProperty × Option String)) :
    StyleProperties :=
  settings.foldl (fun s e => s.set e.1 e.2) s

/-- Reads declarations. -/
def parse (text : String) : StyleProperties :=
  setAll {} (((text.toList.splitOn ',').filterMap readDeclaration?).map fun e => (e.1, some e.2))

end StyleProperties

/-- A named style that nodes refer to. -/
structure ClassStyle where
  name : String
  properties : StyleProperties := {}
  deriving DecidableEq, Repr, Inhabited

/-- The definition of a class under a name. -/
def ClassStyle.definition (s : ClassStyle) (name : String) : String :=
  "classDef " ++ name ++ " " ++ s.properties.declarations

/-- A named style that an edge has a copy of. -/
structure LinkStyle where
  name : String
  properties : StyleProperties := {}
  deriving DecidableEq, Repr, Inhabited

/-- The style of a link: the number of an edge, or the word for all edges without one. -/
def LinkStyle.definition (s : LinkStyle) (target : String) : String :=
  "linkStyle " ++ target ++ " " ++ s.properties.declarations

end Flowchart
