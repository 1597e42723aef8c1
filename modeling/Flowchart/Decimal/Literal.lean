import Flowchart.Decimal.Double

/-! # Decimal literals

A literal is a sign, digits with a point somewhere among or beside them, and an exponent, of which
all but one digit may be missing; or the name of an infinity, or of no number at all. Its value is
the nearest double.
-/

namespace Flowchart.Decimal

/-- The value of a row of decimal digits. -/
def digitsValue (ds : List Char) : Nat :=
  ds.foldl (fun n d => 10 * n + (d.toNat - 48)) 0

/-- Takes a sign off the front: whether it is a minus, and the rest. -/
def takeSign : List Char → Bool × List Char
  | '-' :: cs => (true, cs)
  | '+' :: cs => (false, cs)
  | cs => (false, cs)

/-- The exponent that ends a literal, zero if there is none. -/
def exponentPart? : List Char → Option Int
  | [] => some 0
  | e :: cs =>
    let (negative, ds) := takeSign cs
    if e.toLower ≠ 'e' ∨ ds = [] ∨ ds.any (fun d => !d.isDigit) then none
    else some (if negative then -(digitsValue ds : Int) else digitsValue ds)

/-- A literal without its sign. -/
def unsigned? (negative : Bool) (cs : List Char) : Option Double :=
  let name := String.ofList (cs.map Char.toLower)
  if name = "nan" then some .nan
  else if name = "inf" ∨ name = "infinity" then some (.infinite negative)
  else
    let whole := cs.takeWhile Char.isDigit
    let rest := cs.dropWhile Char.isDigit
    let (fraction, rest) := match rest with
      | '.' :: tail => (tail.takeWhile Char.isDigit, tail.dropWhile Char.isDigit)
      | _ => ([], rest)
    if whole = [] ∧ fraction = [] then none
    else (exponentPart? rest).map fun e =>
      .ofDecimal negative (digitsValue (whole ++ fraction)) (e - fraction.length)

/-- Reads a literal. -/
def Double.parse? (text : String) : Option Double :=
  let (negative, cs) := takeSign text.toList
  unsigned? negative cs

end Flowchart.Decimal
