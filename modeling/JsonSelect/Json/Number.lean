import JsonSelect.Double.Shortest

/-! JSON numbers and their text. -/
namespace JsonSelect

/-- A whole number keeps all its digits; any other number is a double. -/
inductive Number where
  | integer (value : Int)
  | double (value : Double)
deriving DecidableEq

/-- Which powers of ten of the leading digit are written out; the others take an exponent. -/
structure DecimalLayout where
  lowestPlain : Int
  highestPlain : Int

namespace DecimalLayout

/-- A point follows the first `order + 1` digits; a digit stands on either side of it. -/
def plain (digits : List Char) (order : Int) : List Char :=
  if order < 0 then ['0', '.'] ++ List.replicate (-order - 1).toNat '0' ++ digits
  else
    let whole := order.toNat + 1
    let fraction := digits.drop whole
    digits.take whole ++ List.replicate (whole - digits.length) '0' ++ ['.'] ++
      (if fraction = [] then ['0'] else fraction)

def scientific (digits : List Char) (order : Int) : List Char :=
  let fraction := digits.drop 1
  digits.take 1 ++ (if fraction = [] then [] else '.' :: fraction) ++
    ['e', if order < 0 then '-' else '+'] ++ Nat.toDigits 10 order.natAbs

def write (layout : DecimalLayout) (d : Decimal) : List Char :=
  let digits := Nat.toDigits 10 d.coefficient
  let order := d.scale + digits.length - 1
  let digits := (digits.reverse.dropWhile (· = '0')).reverse
  if layout.lowestPlain ≤ order ∧ order ≤ layout.highestPlain then plain digits order
  else scientific digits order

end DecimalLayout

namespace Number

/-- Five zeros may follow the point before the first digit, and sixteen digits precede it. -/
def layout : DecimalLayout := ⟨-5, 15⟩

def doubleText (d : Double) : List Char :=
  (if d.isNegative then ['-'] else []) ++
    if d.significand = 0 then ['0', '.', '0'] else layout.write d.shortest

def text : Number → String
  | integer value => toString value
  | double value => String.ofList (doubleText value)

end Number
end JsonSelect
