import JsonSelect.Double.Basic

/-! The doubles nearest to exact values, and the products and quotients of doubles. -/
namespace JsonSelect.Double

/-- `dividend / divisor` rounded to the nearest natural number, a half to the even one. -/
def roundedQuotient (dividend divisor : Nat) : Nat :=
  let quotient := dividend / divisor
  let twice := 2 * (dividend % divisor)
  if divisor < twice ∨ (twice = divisor ∧ quotient % 2 = 1) then quotient + 1 else quotient

/-- The power of two at or below the positive fraction `dividend / divisor`. -/
def binaryOrder (dividend divisor : Nat) : Int :=
  let guess := (dividend.log2 : Int) - divisor.log2
  if dividend * twoTo (-guess) < divisor * twoTo guess then guess - 1 else guess

/-- The value above every number. -/
def infinite : Double := ⟨.ofNat (lastExponent * fractionEnd)⟩

/-- The double nearest to `dividend / divisor`, a half going to the even significand; one too large
is infinite. A significand of twice `fractionEnd` carries into the exponent by itself. -/
def nearest (dividend divisor : Nat) : Double :=
  if dividend = 0 then ⟨0⟩
  else
    let unit := max (binaryOrder dividend divisor - 52) (-1074)
    let rounded := roundedQuotient (dividend * twoTo (-unit)) (divisor * twoTo unit)
    let bits := if rounded < fractionEnd then rounded
      else (unit + 1074).toNat * fractionEnd + rounded
    if lastExponent * fractionEnd ≤ bits then infinite else ⟨.ofNat bits⟩

def ofNat (value : Nat) : Double := nearest value 1

def withSign (negative : Bool) (magnitude : Double) : Double :=
  if negative then ⟨magnitude.bits + 0x8000000000000000⟩ else magnitude

def ofInt (value : Int) : Double := withSign (value < 0) (ofNat value.natAbs)

/-- The product of two magnitudes. -/
def times (a b : Double) : Double :=
  nearest (a.numerator * b.numerator) (a.denominator * b.denominator)

/-- The quotient of two magnitudes. -/
def dividedBy (a b : Double) : Double :=
  nearest (a.numerator * b.denominator) (a.denominator * b.numerator)

end JsonSelect.Double
