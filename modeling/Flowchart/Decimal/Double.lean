/-! # Double-precision numbers

A double is kept exactly: a sign and a magnitude `mantissa · 2 ^ exponent` on the grid of 53-bit
mantissas, or one of the infinities, or no number at all. A ratio of natural numbers is rounded
to the nearest magnitude, and a tie goes to the even mantissa. All arithmetic is on natural
numbers, so nothing hangs on the machine.
-/

namespace Flowchart.Decimal

/-- The least exponent of the grid, that of the subnormal magnitudes. -/
def leastExponent : Int := -1074

/-- The greatest exponent of the grid. -/
def greatestExponent : Int := 971

/-- The least mantissa of 53 bits. -/
def leastNormal : Nat := 4503599627370496

/-- The magnitude `mantissa · 2 ^ exponent`. -/
structure Magnitude where
  mantissa : Nat
  exponent : Int
  deriving DecidableEq, Repr, Inhabited

/-- A double-precision number. -/
inductive Double where
  | nan
  | infinite (negative : Bool)
  | finite (negative : Bool) (magnitude : Magnitude)
  deriving DecidableEq, Repr, Inhabited

/-- The quotient of two numbers rounded to the nearest natural, a tie to the even one. -/
def roundHalfEven (num den : Nat) : Nat :=
  let q := num / den
  let r := num % den
  if 2 * r < den then q
  else if den < 2 * r then q + 1
  else if q % 2 = 0 then q else q + 1

/-- The ratio `num / den` divided by `2 ^ e`. -/
def dividedByPower (num den : Nat) (e : Int) : Nat × Nat :=
  if 0 ≤ e then (num, den * Nat.pow 2 e.toNat) else (num * Nat.pow 2 (-e).toNat, den)

namespace Magnitude

/-- Zero. -/
def zero : Magnitude := ⟨0, leastExponent⟩

/-- A magnitude as a ratio. -/
def ratio (m : Magnitude) : Nat × Nat :=
  if 0 ≤ m.exponent then (m.mantissa * Nat.pow 2 m.exponent.toNat, 1)
  else (m.mantissa, Nat.pow 2 (-m.exponent).toNat)

/-- The exponent at which the mantissa of a positive ratio has 53 bits, but never below the
least one. -/
def exponentOf (num den : Nat) : Int :=
  let e := (num.log2 : Int) - den.log2 - 52
  let (n, d) := dividedByPower num den e
  max leastExponent (if n < leastNormal * d then e - 1 else e)

/-- The magnitude nearest a ratio, or nothing if that lies above the grid. -/
def ofRatio? (num den : Nat) : Option Magnitude :=
  if num = 0 then some zero
  else
    let e := exponentOf num den
    let (n, d) := dividedByPower num den e
    let m := roundHalfEven n d
    let rounded : Magnitude := if m = 2 * leastNormal then ⟨leastNormal, e + 1⟩ else ⟨m, e⟩
    if greatestExponent < rounded.exponent then none else some rounded

/-- The rounded product. -/
def mul? (a b : Magnitude) : Option Magnitude :=
  ofRatio? (a.ratio.1 * b.ratio.1) (a.ratio.2 * b.ratio.2)

/-- The rounded quotient. -/
def div? (a b : Magnitude) : Option Magnitude :=
  ofRatio? (a.ratio.1 * b.ratio.2) (a.ratio.2 * b.ratio.1)

/-- The magnitude nearest `digits · 10 ^ exponent`. Far beyond the grid on either side the power of
ten is not even formed. -/
def ofDecimal? (digits : Nat) (exponent : Int) : Option Magnitude :=
  let size : Int := digits.log2
  if digits = 0 then some zero
  else if 1100 < size + 3 * exponent ∧ 0 ≤ exponent then none
  else if size + 3 * exponent < -1100 ∧ exponent < 0 then some zero
  else if 0 ≤ exponent then ofRatio? (digits * Nat.pow 10 exponent.toNat) 1
  else ofRatio? digits (Nat.pow 10 (-exponent).toNat)

/-- The natural number that a magnitude is, if it is whole. -/
def toNat? (m : Magnitude) : Option Nat :=
  if m.ratio.1 % m.ratio.2 = 0 then some (m.ratio.1 / m.ratio.2) else none

end Magnitude

namespace Double

/-- A sign and a magnitude that may lie beyond the grid. -/
def ofMagnitude? (negative : Bool) : Option Magnitude → Double
  | some m => finite negative m
  | none => infinite negative

/-- The double nearest a decimal number. -/
def ofDecimal (negative : Bool) (digits : Nat) (exponent : Int) : Double :=
  ofMagnitude? negative (Magnitude.ofDecimal? digits exponent)

end Double

end Flowchart.Decimal
