import JsonSelect.Double.Nearest
import JsonSelect.Json.Number

/-! Numbers as a JSON text writes them. -/
namespace JsonSelect

/-- The sign, the digits on both sides of the point, and the power of ten of a written number. -/
structure Numeral where
  negative : Bool
  whole : List Char
  fraction : List Char := []
  power : Option Int := none

namespace Numeral

/-- Digits are taken up as long as 64 bits hold their number; the others remain. -/
def absorb (significand : Nat) : List Char → Nat × List Char
  | [] => (significand, [])
  | c :: rest =>
    let next := significand * 10 + (c.toNat - '0'.toNat)
    if next < 2 * wordEnd then absorb next rest else (significand, c :: rest)

/-- `magnitude * 10 ^ scale`, with one rounding for each power of ten that a double can hold. -/
def scaled (magnitude : Double) (scale : Int) : Double :=
  if magnitude.significand = 0 then magnitude
  else if 0 ≤ scale then
    if scale ≤ 308 then magnitude.times (.ofNat (tenTo scale)) else .infinite
  else if -308 ≤ scale then magnitude.dividedBy (.ofNat (tenTo (-scale)))
  else scaled (magnitude.dividedBy (.ofNat (tenTo 308))) (scale + 308)
termination_by (-scale).toNat

/-- Digits that were not taken up count by their place before the point and not at all after it. -/
def magnitude (numeral : Numeral) : Double :=
  let (whole, left) := absorb 0 numeral.whole
  let (significand, dropped) := absorb whole numeral.fraction
  let places : Int := numeral.fraction.length - dropped.length
  scaled (.ofNat significand) (left.length - places + numeral.power.getD 0)

/-- Whether a whole number is one of 64 bits, with or without a sign. The zero of the integers has
no minus sign. -/
def fits (negative : Bool) (whole : Nat) : Bool :=
  if negative then 0 < whole && whole ≤ wordEnd else whole < 2 * wordEnd

/-- A whole number that fits keeps its value. Any other number is a double. -/
def value (numeral : Numeral) : Number :=
  let whole := Nat.ofDigitChars 10 numeral.whole 0
  if numeral.fraction = [] ∧ numeral.power = none ∧ fits numeral.negative whole then
    .integer (if numeral.negative then -(whole : Int) else whole)
  else .double (.withSign numeral.negative numeral.magnitude)

end Numeral
end JsonSelect
