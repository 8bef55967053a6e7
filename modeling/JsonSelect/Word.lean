/-! Whole numbers that fit 64 bits. -/
namespace JsonSelect

/-- One more than the largest number of 64 bits with a sign. -/
def wordEnd : Nat := 0x8000000000000000

/-- Whether 64 bits with a sign can hold a number. -/
def isWord (value : Int) : Bool := -(wordEnd : Int) ≤ value ∧ value < wordEnd

end JsonSelect
