import JsonSelect.Power
import JsonSelect.Word

/-! Binary floating-point numbers of 64 bits, held by their bits and read as exact values. -/
namespace JsonSelect

/-- A sign bit, eleven bits of exponent and 52 bits of fraction. -/
structure Double where
  bits : UInt64
deriving DecidableEq

namespace Double

/-- One more than the largest fraction. -/
def fractionEnd : Nat := 0x10000000000000

/-- The exponent of infinite values and of those that are no number. -/
def lastExponent : Nat := 2047

def isNegative (d : Double) : Bool := wordEnd ≤ d.bits.toNat

def exponentField (d : Double) : Nat := d.bits.toNat / fractionEnd % (lastExponent + 1)

def fractionField (d : Double) : Nat := d.bits.toNat % fractionEnd

def isFinite (d : Double) : Bool := d.exponentField ≠ lastExponent

/-- The magnitude of a finite number is `significand * 2 ^ exponent`. -/
def significand (d : Double) : Nat :=
  if d.exponentField = 0 then d.fractionField else fractionEnd + d.fractionField

def exponent (d : Double) : Int := (max d.exponentField 1 : Nat) - 1075

/-- The magnitude of a finite number is `numerator / denominator`. -/
def numerator (d : Double) : Nat := d.significand * twoTo d.exponent

def denominator (d : Double) : Nat := twoTo (-d.exponent)

def wholePart (d : Double) : Nat := d.numerator / d.denominator

/-- The number without its fraction, for magnitudes below `wordEnd`. -/
def truncate? (d : Double) : Option Int :=
  if d.isFinite ∧ d.wholePart < wordEnd then
    some (if d.isNegative then -(d.wholePart : Int) else d.wholePart)
  else none

end Double
end JsonSelect
