/-! Powers with whole exponents, as natural numbers. -/
namespace JsonSelect

/-- The power of two of an exponent, one for those below zero: `twoTo e / twoTo (-e)` is the value
of two to the power of `e`. -/
def twoTo (exponent : Int) : Nat := Nat.pow 2 exponent.toNat

/-- The power of ten of an exponent, one for those below zero. -/
def tenTo (exponent : Int) : Nat := Nat.pow 10 exponent.toNat

end JsonSelect
