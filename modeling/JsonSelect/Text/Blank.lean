/-! Blank characters, and a text without the blanks at its ends. -/
namespace JsonSelect.Text

/-- Whether the code point of `c` lies in one of the ranges, ends included. -/
def inRanges (ranges : List (Nat × Nat)) (c : Char) : Bool :=
  ranges.any fun range => decide (range.1 ≤ c.toNat) && decide (c.toNat ≤ range.2)

/-- The code points with the White_Space property. -/
def blankRanges : List (Nat × Nat) := [
  (0x9, 0xD), (0x20, 0x20), (0x85, 0x85), (0xA0, 0xA0), (0x1680, 0x1680), (0x2000, 0x200A),
  (0x2028, 0x2029), (0x202F, 0x202F), (0x205F, 0x205F), (0x3000, 0x3000)]

def isBlank (c : Char) : Bool := inRanges blankRanges c

def trimStart (text : List Char) : List Char := text.dropWhile isBlank

def trimEnd (text : List Char) : List Char := (text.reverse.dropWhile isBlank).reverse

def trim (text : List Char) : List Char := trimEnd (trimStart text)

theorem trimEnd_append_of_not_isBlank {text : List Char} {c : Char} (h : isBlank c = false) :
    trimEnd (text ++ [c]) = text ++ [c] := by
  simp [trimEnd, h]

theorem trimEnd_append_of_isBlank {text : List Char} {c : Char} (h : isBlank c = true) :
    trimEnd (text ++ [c]) = trimEnd text := by
  simp [trimEnd, h]

end JsonSelect.Text
