import JsonSelect.Text.Blank
import JsonSelect.Word

/-! The whole number that a text starts with. -/
namespace JsonSelect.Text

/-- A run of ASCII digits whose number is below `wordEnd`. What follows the run is not looked at. -/
def leadingDigits? (text : List Char) : Option Nat :=
  let digits := text.takeWhile Char.isDigit
  let value := Nat.ofDigitChars 10 digits 0
  if digits = [] ∨ wordEnd ≤ value then none else some value

/-- Blanks and one sign may stand before the digits. -/
def leadingInteger? (text : List Char) : Option Int :=
  match trimStart text with
  | '-' :: rest => (leadingDigits? rest).map fun value => -(value : Int)
  | '+' :: rest => (leadingDigits? rest).map Int.ofNat
  | rest => (leadingDigits? rest).map Int.ofNat

end JsonSelect.Text
