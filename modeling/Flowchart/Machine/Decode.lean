import Flowchart.Json.Decode
import Flowchart.Machine.Basic

/-! # Machines as JSON

A machine is an object with the fields `id`, `tags` and `states`, and a state one with `type`,
`tags`, `description` and `on`; either may also be a list of its fields in this order, of which the
last ones may be left out, but for the `id`. Fields that are not known are skipped.

Tags are one string or a list of strings. A transition is a string, its target, or an object with
the fields `target` and `description`. Both are read as a value first and looked at afterwards, so
they are refused as a whole.
-/

namespace Flowchart

open Json

/-! ## Tags and transitions -/

/-- Every string of a list of values, if all are strings. -/
def allStrings? : List Value → Option (List String)
  | [] => some []
  | .string s :: rest => (allStrings? rest).map (s :: ·)
  | _ :: _ => none

/-- The tags that a value stands for. -/
def tagsOf? : Value → Option (List String)
  | .string s => some [s]
  | .list values => allStrings? values
  | _ => none

/-- The fields of a transition, as far as they have been seen. -/
structure TransitionFields where
  target : Option String := none
  description : Option (Option String) := none

/-- One more field of a transition; a field may stand only once. -/
def TransitionFields.add? (f : TransitionFields) (key : String) (value : Value) :
    Option TransitionFields :=
  if key = "target" then
    match f.target, value with
    | none, .string s => some { f with target := some s }
    | _, _ => none
  else if key = "description" then
    match f.description, value with
    | none, .string s => some { f with description := some (some s) }
    | none, .null => some { f with description := some none }
    | _, _ => none
  else some f

/-- The transition that a value stands for. -/
def transitionOf? : Value → Option Transition
  | .string target => some { target }
  | .object members => do
    let fields ← members.foldlM (fun f m => f.add? m.1 m.2) ({} : TransitionFields)
    some { target := ← fields.target, description := fields.description.getD none }
  | _ => none

/-- Decodes tags. -/
def decodeTags (room : Nat) (t : Tree) : Except Problem (List String) := do
  match tagsOf? (← t.value room) with
  | some tags => .ok tags
  | none => .error (.data (.noForm "OneOrMany"))

/-- Decodes a transition. -/
def decodeTransition (room : Nat) (t : Tree) : Except Problem Transition := do
  match transitionOf? (← t.value room) with
  | some transition => .ok transition
  | none => .error (.data (.noForm "TransitionRepr"))

/-! ## Records -/

/-- Takes a field that has not been seen before. -/
def once {α : Type} (name : String) (seen : Option α) (decoder : Except Problem α) :
    Except Problem (Option α) :=
  match seen with
  | some _ => .error (.data (.duplicateField name))
  | none => decoder.map some

/-- Decodes an object as a dictionary. -/
def decodeDict {α : Type} (decoder : Nat → Tree → Except Problem α) (room : Nat) :
    Tree → Except Problem (Dict α)
  | .object members fault => do
    let inside ← enter room
    readMembers (fun d key t => do .ok (d.insert key (← decoder inside t))) {} members fault
  | t => t.mismatch .map

/-- Decodes the next item of a list, if there is one. -/
def decodeItem {α : Type} (decoder : Tree → Except Problem α) (items : List Tree)
    (fault : Option Break) : Except Problem (Option α × List Tree) := do
  match ← nextItem items fault with
  | some (t, rest) => .ok (some (← decoder t), rest)
  | none => .ok (none, [])

/-! ## States -/

/-- The fields of a state, as far as they have been seen. -/
structure StateFields where
  kind : Option (Option String) := none
  tags : Option (List String) := none
  description : Option (Option String) := none
  on : Option (Dict Transition) := none

/-- One more field of a state. -/
def StateFields.add (room : Nat) (f : StateFields) (key : String) (t : Tree) :
    Except Problem StateFields :=
  if key = "type" then do .ok { f with kind := ← once key f.kind t.optionalText }
  else if key = "tags" then do .ok { f with tags := ← once key f.tags (decodeTags room t) }
  else if key = "description" then do
    .ok { f with description := ← once key f.description t.optionalText }
  else if key = "on" then do
    .ok { f with on := ← once key f.on (decodeDict decodeTransition room t) }
  else do t.skip; .ok f

/-- The state of the fields that were seen. -/
def StateFields.state (f : StateFields) : MachineState :=
  { kind := f.kind.getD none, tags := f.tags.getD [], description := f.description.getD none,
    on := f.on.getD {} }

/-- Decodes a state. -/
def decodeState (room : Nat) : Tree → Except Problem MachineState
  | .object members fault => do
    let inside ← enter room
    let fields ← readMembers (StateFields.add inside) {} members fault
    .ok fields.state
  | .list items fault => do
    let inside ← enter room
    let (kind, items) ← decodeItem Tree.optionalText items fault
    let (tags, items) ← decodeItem (decodeTags inside) items fault
    let (description, items) ← decodeItem Tree.optionalText items fault
    let (on, items) ← decodeItem (decodeDict decodeTransition inside) items fault
    endItems items fault
    .ok (StateFields.state { kind, tags, description, on })
  | t => t.mismatch (.record "StateNode")

/-! ## Machines -/

/-- The fields of a machine, as far as they have been seen. -/
structure MachineFields where
  id : Option String := none
  tags : Option (List String) := none
  states : Option (Dict MachineState) := none

/-- One more field of a machine. -/
def MachineFields.add (room : Nat) (f : MachineFields) (key : String) (t : Tree) :
    Except Problem MachineFields :=
  if key = "id" then do .ok { f with id := ← once key f.id t.text }
  else if key = "tags" then do .ok { f with tags := ← once key f.tags (decodeTags room t) }
  else if key = "states" then do
    .ok { f with states := ← once key f.states (decodeDict decodeState room t) }
  else do t.skip; .ok f

/-- The machine of the fields that were seen, under an id. -/
def MachineFields.machine (f : MachineFields) (id : String) : Machine :=
  { id, tags := f.tags.getD [], states := f.states.getD {} }

/-- Decodes a machine. -/
def decodeMachine : Tree → Except Problem Machine
  | .object members fault => do
    let inside ← enter maxDepth
    let fields ← readMembers (MachineFields.add inside) {} members fault
    match fields.id with
    | some id => .ok (fields.machine id)
    | none => .error (.data (.missingField "id"))
  | .list items fault => do
    let inside ← enter maxDepth
    let (id, items) ← decodeItem Tree.text items fault
    match id with
    | none => .error (.data (.wrongLength 0 "StateMachine" 3))
    | some id =>
      let (tags, items) ← decodeItem (decodeTags inside) items fault
      let (states, items) ← decodeItem (decodeDict decodeState inside) items fault
      endItems items fault
      .ok (MachineFields.machine { tags, states } id)
  | t => t.mismatch (.record "StateMachine")

/-- Reads the text of a machine. -/
def Machine.read (text : String) : Except Problem Machine :=
  decode decodeMachine text

end Flowchart
