import Flowchart.Decimal.Literal
import Flowchart.Decimal.Shortest

/-! # JSON numbers

A number is an integer if it has neither fraction nor exponent and fits in 64 bits, signed or
unsigned; `-0` is none. Any other number is a double: the digits that fit in 64 bits, times or
divided by a power of ten, where digits, power and result are each rounded to a double. A number
whose double would lie beyond the greatest one is no number.
-/

namespace Flowchart.Json

open Flowchart.Decimal

/-- A JSON number. -/
inductive Number where
  | int (value : Int)
  | double (value : Double)
  deriving DecidableEq, Repr

/-- The parts of a number as it is written. -/
structure NumberText where
  negative : Bool
  whole : List Char
  fraction : Option (List Char)
  /-- The sign of the exponent, true for a minus, and its digits. -/
  exponent : Option (Bool × List Char)
  deriving DecidableEq, Repr

/-- The least number that does not fit in 64 bits. -/
def wordLimit : Nat := 18446744073709551616

/-- The greatest number whose negative fits in 64 signed bits. -/
def signedLimit : Nat := 9223372036854775808

/-- The value of the leading digits that fit in 64 bits, and the number of those that follow. -/
def leadingDigits : Nat → List Char → Nat × Nat
  | m, [] => (m, 0)
  | m, d :: ds =>
    let next := 10 * m + digitsValue [d]
    if next < wordLimit then leadingDigits next ds else (m, ds.length + 1)

/-- The nearest magnitude of a power of ten. -/
def powerOfTen? (k : Nat) : Option Magnitude :=
  Magnitude.ofDecimal? 1 k

/-- A magnitude divided by a power of ten up to the 308th. -/
def divideByPower? (m : Magnitude) (k : Nat) : Option Magnitude := do
  m.div? (← powerOfTen? k)

/-- Digits times a power of ten. Beyond the 308th power the product is too large, unless it is
zero; a negative power is divided by in steps of 308. -/
def scale? (digits : Nat) (exponent : Int) : Option Magnitude := do
  let m ← Magnitude.ofRatio? digits 1
  if 0 ≤ exponent then
    if digits = 0 then some .zero
    else if exponent ≤ 308 then m.mul? (← powerOfTen? exponent.toNat)
    else none
  else if -308 ≤ exponent then divideByPower? m (-exponent).toNat
  else if -616 ≤ exponent then
    divideByPower? (← divideByPower? m 308) (-exponent - 308).toNat
  else some .zero

/-- The signed exponent of a number, zero if it has none. -/
def NumberText.exponentValue (t : NumberText) : Int :=
  match t.exponent with
  | none => 0
  | some (negative, ds) => if negative then -(digitsValue ds : Int) else digitsValue ds

/-- The double of a number, if it is not too large. -/
def NumberText.double? (t : NumberText) : Option Double :=
  let (whole, beyond) := leadingDigits 0 t.whole
  let fraction := t.fraction.getD []
  let (digits, left) := leadingDigits whole fraction
  let exponent := (beyond : Int) - (fraction.length - left : Nat) + t.exponentValue
  (scale? digits exponent).map (.finite t.negative)

/-- The integer of a number, if it is one. -/
def NumberText.int? (t : NumberText) : Option Int :=
  let n := digitsValue t.whole
  if t.fraction.isSome ∨ t.exponent.isSome then none
  else if t.negative then
    if 0 < n ∧ n ≤ signedLimit then some (-(n : Int)) else none
  else if n < wordLimit then some n else none

/-- The value of a number, if it is not too large. -/
def NumberText.value? (t : NumberText) : Option Number :=
  match t.int? with
  | some n => some (.int n)
  | none => t.double?.map .double

/-- The shortest text of a number; a double never reads as an integer. -/
def Number.text : Number → String
  | .int n => toString n
  | .double d => Form.exponential.text d

end Flowchart.Json
