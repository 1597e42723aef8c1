import Flowchart.Json.Tree
import Flowchart.Json.Value
import Flowchart.Keyword.Basic
import Flowchart.Text.Printable

/-! # Decoding JSON

A decoder walks a tree in document order and stops at the first problem: a fault of the text, or
a value that is not what is wanted there. A scalar is read to its end before its type is looked
at; the type of a list or an object is known from its bracket, before anything in it is read.

No more than `maxDepth` lists and objects may be open at once; a decoder carries the number that
may still be opened. What is skipped does not count.
-/

namespace Flowchart.Json

/-- What is found in the place of a wanted value. -/
inductive Found where
  | null
  | bool (value : Bool)
  | number (value : Number)
  | string (value : String)
  | sequence
  | map
  deriving DecidableEq, Repr

/-- What is wanted. -/
inductive Wanted where
  | string
  | map
  /-- An object or a list with the fields of a record. -/
  | record (name : String)
  deriving DecidableEq, Repr

/-- Well-formed JSON that does not say what it should. -/
inductive DataError where
  | missingField (name : String)
  | duplicateField (name : String)
  | wrongType (found : Found) (wanted : Wanted)
  /-- A record written as a list of fewer items than it has fields. -/
  | wrongLength (found : Nat) (record : String) (fields : Nat)
  /-- A value in none of the forms in which the thing may be written. -/
  | noForm (name : String)
  | unknownName (name : UnknownName)
  deriving DecidableEq, Repr

/-- The first problem of a text. -/
inductive Problem where
  | fault (fault : Fault)
  | data (error : DataError)
  deriving DecidableEq, Repr

/-! ## Messages -/

/-- What is found, in words. -/
def Found.message : Found → String
  | .null => "null"
  | .bool true => "boolean `true`"
  | .bool false => "boolean `false`"
  | .number (.int n) => "integer `" ++ toString n ++ "`"
  | .number (.double d) => "floating point `" ++ (Number.double d).text ++ "`"
  | .string s => "string " ++ Text.quoted s
  | .sequence => "sequence"
  | .map => "map"

/-- What is wanted, in words. -/
def Wanted.message : Wanted → String
  | .string => "a string"
  | .map => "a map"
  | .record name => "struct " ++ name

/-- The error in words. -/
def DataError.message : DataError → String
  | .missingField name => "missing field `" ++ name ++ "`"
  | .duplicateField name => "duplicate field `" ++ name ++ "`"
  | .wrongType found wanted => "invalid type: " ++ found.message ++ ", expected " ++ wanted.message
  | .wrongLength found record fields =>
    "invalid length " ++ toString found ++ ", expected struct " ++ record ++ " with "
      ++ toString fields ++ " elements"
  | .noForm name => "data did not match any variant of untagged enum " ++ name
  | .unknownName name => name.message

/-! ## Scalars -/

/-- Reports a fault of the text. -/
def faulty {α : Type} (f : Fault) : Except Problem α :=
  .error (.fault f)

/-- Reports a value that is not what is wanted; a value that is itself at fault is reported as
that. -/
def Tree.mismatch {α : Type} (wanted : Wanted) : Tree → Except Problem α
  | .null => .error (.data (.wrongType .null wanted))
  | .bool b => .error (.data (.wrongType (.bool b) wanted))
  | .number (some n) => .error (.data (.wrongType (.number n) wanted))
  | .number none => faulty .malformed
  | .string (some s) => .error (.data (.wrongType (.string s) wanted))
  | .string none => faulty .malformed
  | .list _ _ => .error (.data (.wrongType .sequence wanted))
  | .object _ _ => .error (.data (.wrongType .map wanted))
  | .broken b => faulty b.seen

/-- A string. -/
def Tree.text : Tree → Except Problem String
  | .string (some s) => .ok s
  | t => t.mismatch .string

/-- A string or null. -/
def Tree.optionalText : Tree → Except Problem (Option String)
  | .null => .ok none
  | t => (t.text).map some

/-! ## Lists and objects -/

/-- The greatest number of lists and objects that may be open at once. -/
def maxDepth : Nat := 127

/-- Opens a list or an object: what room is left inside it. -/
def enter : Nat → Except Problem Nat
  | 0 => faulty .malformed
  | room + 1 => .ok room

/-- The end of a list or an object, as one who reads it finds it. -/
def closeSeen : Option Break → Except Problem Unit
  | none => .ok ()
  | some b => faulty b.seen

/-- The end of a list or an object, as one who skips it finds it. -/
def closeSkipped : Option Break → Except Problem Unit
  | none => .ok ()
  | some b => faulty b.skipped

/-- Reads the members of an object in order. -/
def readMembers {σ : Type} (step : σ → String → Tree → Except Problem σ) :
    σ → List Member → Option Break → Except Problem σ
  | s, [], fault => do closeSeen fault; .ok s
  | _, (none, _) :: _, _ => faulty .malformed
  | s, (some key, value) :: rest, fault => do
    readMembers step (← step s key value) rest fault

/-- The next item of a list, if it has one. -/
def nextItem (items : List Tree) (fault : Option Break) :
    Except Problem (Option (Tree × List Tree)) :=
  match items with
  | t :: rest => .ok (some (t, rest))
  | [] => do closeSeen fault; .ok none

/-- The end of a list of which no more items are wanted. -/
def endItems (items : List Tree) (fault : Option Break) : Except Problem Unit :=
  match items with
  | [] => closeSeen fault
  | _ :: _ => faulty .malformed

mutual

/-- Passes over a value. -/
def Tree.skip : Tree → Except Problem Unit
  | .list items fault => do skipItems items; closeSkipped fault
  | .object members fault => do skipMembers members; closeSkipped fault
  | .broken b => faulty b.skipped
  | _ => .ok ()

/-- Passes over the items of a list. -/
def skipItems : List Tree → Except Problem Unit
  | [] => .ok ()
  | t :: rest => do t.skip; skipItems rest

/-- Passes over the members of an object. -/
def skipMembers : List Member → Except Problem Unit
  | [] => .ok ()
  | (_, t) :: rest => do t.skip; skipMembers rest

end

mutual

/-- Reads a value of any kind, with the room there is for lists and objects. -/
def Tree.value (room : Nat) : Tree → Except Problem Value
  | .null => .ok .null
  | .bool b => .ok (.bool b)
  | .number (some n) => .ok (.number n)
  | .number none => faulty .malformed
  | .string (some s) => .ok (.string s)
  | .string none => faulty .malformed
  | .list items fault => do
    let values ← valueItems (← enter room) items
    closeSeen fault
    .ok (.list values)
  | .object members fault => do
    let values ← valueMembers (← enter room) members
    closeSeen fault
    .ok (.object values)
  | .broken b => faulty b.seen

/-- Reads the items of a list. -/
def valueItems (room : Nat) : List Tree → Except Problem (List Value)
  | [] => .ok []
  | t :: rest => do .ok ((← t.value room) :: (← valueItems room rest))

/-- Reads the members of an object. -/
def valueMembers (room : Nat) : List Member → Except Problem (List (String × Value))
  | [] => .ok []
  | (none, _) :: _ => faulty .malformed
  | (some key, t) :: rest => do .ok ((key, ← t.value room) :: (← valueMembers room rest))

end

/-! ## Documents -/

/-- Decodes a text as a whole: nothing but blanks may follow the value. -/
def decode {α : Type} (decoder : Tree → Except Problem α) (text : String) : Except Problem α := do
  let document := Document.read text
  let a ← decoder document.root
  if document.trailing then faulty .malformed else .ok a

/-- Reads a text as a value. -/
def Value.read (text : String) : Except Problem Value :=
  decode (Tree.value maxDepth) text

end Flowchart.Json
