import Flowchart.Decimal.Double

/-! # The shortest decimal form of a double

The digits of a double are the fewest that read back as that double. They are looked for one
decimal grid after the other: with one digit, with two, and so on, the two points of the grid
around the value are tested against the interval of the reals that round to it. Of two points in
the interval the nearer one is taken. Seventeen digits always suffice.

The digits are then laid out in one of two forms: plain (`0.001`, `100`), or with a point
(`100.0`), and an exponent where the number is very large or very small (`1e+30`).
-/

namespace Flowchart.Decimal

/-- Decimal digits without trailing zeros; the number is `0.d₁d₂… · 10 ^ point`. -/
structure Digits where
  digits : List Char
  point : Int
  deriving DecidableEq, Repr

/-- Where a value half way between two points of the decimal grid goes. -/
inductive Tie where
  | up
  | even
  deriving DecidableEq, Repr

/-- The number of decimal digits of a natural number. -/
def digitCount (n : Nat) : Nat :=
  (Nat.toDigits 10 n).length

/-- The exponent of the leading decimal digit of a positive ratio. -/
def leadingExponent (num den : Nat) : Int :=
  if den ≤ num then (digitCount (num / den) : Int) - 1
  else -(digitCount ((den + num - 1) / num - 1) : Int)

/-- The reals that round to a magnitude, as multiples of a quarter of its last place: the least,
the greatest, and whether they themselves belong. The gap below a power of two is half as wide. -/
def roundingInterval (m : Magnitude) : Nat × Nat × Bool :=
  let below := if m.mantissa = leastNormal ∧ leastExponent < m.exponent then 1 else 2
  (4 * m.mantissa - below, 4 * m.mantissa + 2, m.mantissa % 2 == 0)

/-- Tells whether `point · 10 ^ k` rounds to the magnitude. -/
def roundsTo (m : Magnitude) (k : Int) (point : Nat) : Bool :=
  let (least, greatest, closed) := roundingInterval m
  let (num, den) :=
    if 0 ≤ k then (point * Nat.pow 10 k.toNat, 1) else (point, Nat.pow 10 (-k).toNat)
  let (num, den) := dividedByPower num den (m.exponent - 2)
  if closed then decide (least * den ≤ num) && decide (num ≤ greatest * den)
  else decide (least * den < num) && decide (num < greatest * den)

/-- The point of the grid of multiples of `10 ^ k` that stands for the magnitude, if one does. -/
def gridPoint? (tie : Tie) (m : Magnitude) (k : Int) : Option Nat :=
  let (num, den) := m.ratio
  let (num, den) :=
    if 0 ≤ k then (num, den * Nat.pow 10 k.toNat) else (num * Nat.pow 10 (-k).toNat, den)
  let low := num / den
  let rest := 2 * (num % den)
  let lowFirst := decide (rest < den) || (decide (rest = den) && tie == .even && low % 2 == 0)
  match roundsTo m k low, roundsTo m k (low + 1) with
  | true, true => some (if lowFirst then low else low + 1)
  | true, false => some low
  | false, true => some (low + 1)
  | false, false => none

/-- The first grid, of `count` digits or more, with a point that stands for the magnitude; grids of
more than `count + left` digits are not tried. -/
def searchGrids (tie : Tie) (m : Magnitude) (lead : Int) : Nat → Nat → Nat × Int
  | count, 0 => ((gridPoint? tie m (lead + 1 - count)).getD 0, lead + 1 - count)
  | count, left + 1 =>
    match gridPoint? tie m (lead + 1 - count) with
    | some point => (point, lead + 1 - count)
    | none => searchGrids tie m lead (count + 1) left

/-- The shortest digits of a magnitude. -/
def shortestDigits (tie : Tie) (m : Magnitude) : Digits :=
  if m.mantissa = 0 then ⟨['0'], 1⟩
  else
    let (point, k) := searchGrids tie m (leadingExponent m.ratio.1 m.ratio.2) 1 16
    let written := Nat.toDigits 10 point
    ⟨(written.reverse.dropWhile (· == '0')).reverse, written.length + k⟩

/-! ## Written forms -/

/-- A run of zeros. -/
def zeros (n : Nat) : List Char :=
  List.replicate n '0'

/-- Digits in plain positional notation; `whole` is put behind a whole number. -/
def Digits.positional (whole : List Char) (d : Digits) : List Char :=
  if d.point ≤ 0 then ['0', '.'] ++ zeros (-d.point).toNat ++ d.digits
  else if d.digits.length ≤ d.point.toNat then
    d.digits ++ zeros (d.point.toNat - d.digits.length) ++ whole
  else d.digits.take d.point.toNat ++ ['.'] ++ d.digits.drop d.point.toNat

/-- Digits with a signed exponent: one digit before the point, and no point behind a lone digit. -/
def Digits.scientific (d : Digits) : List Char :=
  d.digits.take 1 ++ (if d.digits.length = 1 then [] else ['.'] ++ d.digits.drop 1) ++ ['e']
    ++ (if d.point < 1 then [] else ['+']) ++ (toString (d.point - 1)).toList

/-- How a double is written out. -/
structure Form where
  /-- What stands behind a whole number. -/
  whole : List Char
  /-- The decimal points, counted from the first digit, at which positional notation is used. -/
  positionalAt : Int → Bool
  /-- Where a value half way between two shortest forms goes. -/
  tie : Tie

/-- Digits and nothing else, however large or small the number is. -/
def Form.plain : Form := ⟨[], fun _ => true, .up⟩

/-- With a point or an exponent, so that the number never reads as an integer. -/
def Form.exponential : Form :=
  ⟨['.', '0'], fun point => decide (-5 < point) && decide (point ≤ 16), .even⟩

/-- A magnitude, written out. -/
def Form.magnitude (f : Form) (m : Magnitude) : List Char :=
  let d := shortestDigits f.tie m
  if f.positionalAt d.point then d.positional f.whole else d.scientific

/-- A double, written out. -/
def Form.text (f : Form) : Double → String
  | .nan => "NaN"
  | .infinite false => "inf"
  | .infinite true => "-inf"
  | .finite false m => String.ofList (f.magnitude m)
  | .finite true m => String.ofList ('-' :: f.magnitude m)

end Flowchart.Decimal
