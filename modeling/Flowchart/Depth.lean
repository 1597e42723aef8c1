import Flowchart.Decimal.Shortest
import Flowchart.Refusal

/-! # Depths

The depth of an edge is the number of ranks that it spans beyond the first. It is a whole number
that fits in 32 bits; other numbers are refused, and shown as they would be written out.
-/

namespace Flowchart.Depth

/-- The greatest depth, the greatest number that fits in 32 bits. -/
def greatest : Nat := 4294967295

/-- An integer as a depth. -/
def ofInt (n : Int) : Except Refusal Nat :=
  if 0 ≤ n ∧ n ≤ greatest then .ok n.toNat else .error (.badDepth (toString n))

/-- The depth that a double is, if it is one; a negative zero is zero. -/
def ofDouble? : Decimal.Double → Option Nat
  | .finite negative m =>
    match m.toNat? with
    | some n => if n ≤ greatest ∧ (negative = false ∨ n = 0) then some n else none
    | none => none
  | _ => none

/-- A double as a depth. -/
def ofDouble (d : Decimal.Double) : Except Refusal Nat :=
  match ofDouble? d with
  | some n => .ok n
  | none => .error (.badDepth (Decimal.Form.plain.text d))

end Flowchart.Depth
