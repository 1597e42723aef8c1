import Flowchart.Machine.Decode
import Flowchart.StyleTable.Basic

/-! # Style tables as JSON

A table is an object of rules. A rule has a `style` and a `shape`; a style has a name, which is the
tag of the rule if it is left out, and the values of the properties. The names of the shapes are
looked at once the whole table is read, in the order of the table, so that a rule that is
overridden by a later one may have any shape.
-/

namespace Flowchart

open Json

/-- A style as it is written. -/
structure StyleText where
  name : Option String := none
  color : Option String := none
  fill : Option String := none
  stroke : Option String := none
  strokeWidth : Option String := none
  strokeDash : Option String := none
  deriving DecidableEq, Repr, Inhabited

/-- A rule as it is written. -/
structure RuleText where
  style : StyleText := {}
  shape : Option String := none
  deriving DecidableEq, Repr, Inhabited

/-- The class of a style under a tag. -/
def StyleText.classStyle (s : StyleText) (tag : String) : ClassStyle :=
  { name := s.name.getD tag
    properties := { color := s.color, fill := s.fill, stroke := s.stroke,
                    strokeWidth := s.strokeWidth, strokeDash := s.strokeDash } }

/-- The rule under a tag. -/
def RuleText.rule (r : RuleText) (tag : String) : Except UnknownName StyleRule :=
  match r.shape with
  | none => .ok ⟨r.style.classStyle tag, none⟩
  | some name => do .ok ⟨r.style.classStyle tag, some (← Keyword.parse Shape name)⟩

/-- The entries of a table, if all shapes are known. -/
def ruleEntries : List (String × RuleText) → Except UnknownName (List (String × StyleRule))
  | [] => .ok []
  | (tag, r) :: rest => do .ok ((tag, ← r.rule tag) :: (← ruleEntries rest))

/-! ## Decoding -/

/-- The fields of a style, as far as they have been seen. -/
structure StyleFields where
  name : Option (Option String) := none
  color : Option (Option String) := none
  fill : Option (Option String) := none
  stroke : Option (Option String) := none
  strokeWidth : Option (Option String) := none
  strokeDash : Option (Option String) := none

/-- One more field of a style. -/
def StyleFields.add (f : StyleFields) (key : String) (t : Tree) : Except Problem StyleFields :=
  if key = "name" then do .ok { f with name := ← once key f.name t.optionalText }
  else if key = "color" then do .ok { f with color := ← once key f.color t.optionalText }
  else if key = "fill" then do .ok { f with fill := ← once key f.fill t.optionalText }
  else if key = "stroke" then do .ok { f with stroke := ← once key f.stroke t.optionalText }
  else if key = "strokeWidth" then do
    .ok { f with strokeWidth := ← once key f.strokeWidth t.optionalText }
  else if key = "strokeDash" then do
    .ok { f with strokeDash := ← once key f.strokeDash t.optionalText }
  else do t.skip; .ok f

/-- The style of the fields that were seen. -/
def StyleFields.text (f : StyleFields) : StyleText :=
  { name := f.name.getD none, color := f.color.getD none, fill := f.fill.getD none,
    stroke := f.stroke.getD none, strokeWidth := f.strokeWidth.getD none,
    strokeDash := f.strokeDash.getD none }

/-- Decodes an item of a style that is written as a list, where all items have to be there. -/
def styleItem (place : Nat) (items : List Tree) (fault : Option Break) :
    Except Problem (Option String × List Tree) := do
  match ← decodeItem Tree.optionalText items fault with
  | (some value, rest) => .ok (value, rest)
  | (none, _) => .error (.data (.wrongLength place "StyleRepr" 6))

/-- Decodes a style. -/
def decodeStyle (room : Nat) : Tree → Except Problem StyleText
  | .object members fault => do
    let _ ← enter room
    let fields ← readMembers StyleFields.add {} members fault
    .ok fields.text
  | .list items fault => do
    let _ ← enter room
    let (name, items) ← styleItem 0 items fault
    let (color, items) ← styleItem 1 items fault
    let (fill, items) ← styleItem 2 items fault
    let (stroke, items) ← styleItem 3 items fault
    let (strokeWidth, items) ← styleItem 4 items fault
    let (strokeDash, items) ← styleItem 5 items fault
    endItems items fault
    .ok { name, color, fill, stroke, strokeWidth, strokeDash }
  | t => t.mismatch (.record "StyleRepr")

/-- The fields of a rule, as far as they have been seen. -/
structure RuleFields where
  style : Option StyleText := none
  shape : Option (Option String) := none

/-- One more field of a rule. -/
def RuleFields.add (room : Nat) (f : RuleFields) (key : String) (t : Tree) :
    Except Problem RuleFields :=
  if key = "style" then do .ok { f with style := ← once key f.style (decodeStyle room t) }
  else if key = "shape" then do .ok { f with shape := ← once key f.shape t.optionalText }
  else do t.skip; .ok f

/-- The rule of the fields that were seen. -/
def RuleFields.text (f : RuleFields) : RuleText :=
  { style := f.style.getD {}, shape := f.shape.getD none }

/-- Decodes a rule. -/
def decodeRule (room : Nat) : Tree → Except Problem RuleText
  | .object members fault => do
    let inside ← enter room
    let fields ← readMembers (RuleFields.add inside) {} members fault
    .ok fields.text
  | .list items fault => do
    let inside ← enter room
    let (style, items) ← decodeItem (decodeStyle inside) items fault
    let (shape, items) ← decodeItem Tree.optionalText items fault
    endItems items fault
    .ok (RuleFields.text { style, shape })
  | t => t.mismatch (.record "RuleRepr")

/-- Decodes a table: first its text, then the names of its shapes. -/
def decodeStyleTable (t : Tree) : Except Problem StyleTable := do
  let texts ← decodeDict decodeRule maxDepth t
  match ruleEntries texts.entries with
  | .ok entries => .ok ⟨entries⟩
  | .error name => .error (.data (.unknownName name))

/-- Reads the text of a table. -/
def StyleTable.read (text : String) : Except Problem StyleTable :=
  decode decodeStyleTable text

end Flowchart
