/-! # Closed sets of names

Directions, shapes, arrowheads, lines, curves and layout options are closed sets: each member has
one canonical name, and a text that names no member is refused with the names that would have been
accepted.
-/

namespace Flowchart

/-- A text that names no member of a closed set. -/
structure UnknownName where
  /-- What the set is a set of, in words. -/
  kind : String
  /-- The text that was given. -/
  value : String
  /-- The names that would have been accepted. -/
  accepted : List String
  deriving DecidableEq, Repr

/-- The refusal in words. -/
def UnknownName.message (e : UnknownName) : String :=
  "Invalid " ++ e.kind ++ ": '" ++ e.value ++ "' (expected one of: "
    ++ ", ".intercalate e.accepted ++ ")"

/-- A closed set of named members. -/
class Keyword (α : Type) where
  /-- What the members are, in words. -/
  kind : String
  /-- Every member, in the order in which they are listed. -/
  members : List α
  /-- The canonical name of a member. -/
  name : α → String
  /-- The names that a reader accepts, as a refusal lists them. -/
  accepted : List String := members.map name
  /-- The member that a text names. -/
  ofName? : String → Option α := fun text => members.find? (fun m => name m == text)

namespace Keyword

variable {α : Type} [Keyword α]

/-- The refusal of a text that names no member. -/
def unknown (α : Type) [Keyword α] (value : String) : UnknownName :=
  ⟨kind α, value, accepted α⟩

/-- Reads a name. -/
def parse (α : Type) [Keyword α] (text : String) : Except UnknownName α :=
  match (ofName? text : Option α) with
  | some m => .ok m
  | none => .error (unknown α text)

/-- The canonical names of all members, in order. -/
def names (α : Type) [Keyword α] : List String :=
  (members : List α).map name

theorem parse_eq_ok_iff {text : String} {m : α} :
    parse α text = .ok m ↔ (ofName? text : Option α) = some m := by
  unfold parse
  split <;> simp_all

end Keyword

end Flowchart
