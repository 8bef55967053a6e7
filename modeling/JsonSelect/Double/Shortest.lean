import JsonSelect.Double.Basic

/-! The shortest decimal that a double is the nearest to. -/
namespace JsonSelect

/-- The number `coefficient * 10 ^ scale`. -/
structure Decimal where
  coefficient : Nat
  scale : Int
deriving DecidableEq

namespace Double

/-- How the points of a decimal grid lie to the numbers that round to a given double: between
`low / unit` and `high / unit` steps of the grid from zero, the double itself at `value / unit`. -/
structure Window where
  low : Nat
  value : Nat
  high : Nat
  unit : Nat
  closed : Bool

/-- The window over the grid of step `10 ^ scale`. The lower neighbour of a power of two is only
half as far away as the upper one, and both ends round to an even significand. -/
def window (d : Double) (scale : Int) : Window :=
  let below := if d.fractionField = 0 ∧ 1 < d.exponentField then 1 else 2
  let factor := twoTo (d.exponent - 2) * tenTo (-scale)
  { low := (4 * d.significand - below) * factor
    value := 4 * d.significand * factor
    high := (4 * d.significand + 2) * factor
    unit := twoTo (2 - d.exponent) * tenTo scale
    closed := d.significand % 2 = 0 }

def Window.holds (w : Window) (point : Nat) : Bool :=
  if w.closed then w.low ≤ point * w.unit ∧ point * w.unit ≤ w.high
  else w.low < point * w.unit ∧ point * w.unit < w.high

/-- The point of the grid inside the window that is nearest to the value, the even one of two
equally near. -/
def Window.nearest? (w : Window) : Option Nat :=
  let floor := w.value / w.unit
  let twice := 2 * (w.value % w.unit)
  match w.holds floor, w.holds (floor + 1) with
  | false, false => none
  | true, false => some floor
  | false, true => some (floor + 1)
  | true, true =>
    if twice < w.unit ∨ (twice = w.unit ∧ floor % 2 = 0) then some floor else some (floor + 1)

/-- The power of ten at or below a positive finite double. -/
def decimalOrder (d : Double) : Int :=
  let w := d.window 0
  if w.unit ≤ w.value then (Nat.toDigits 10 (w.value / w.unit)).length - 1
  else -(Nat.toDigits 10 ((w.unit - 1) / w.value)).length

/-- The fewest digits that read back as `d`, up to seventeen, and of the numbers with that many
digits the nearest to `d`; of a finite double other than zero. -/
def shortest (d : Double) : Decimal :=
  let order := d.decimalOrder
  let found := (List.range 17).findSome? fun (count : Nat) =>
    let scale := order - count
    (d.window scale).nearest?.map fun point => ⟨point, scale⟩
  found.getD ⟨0, 0⟩

end Double
end JsonSelect
