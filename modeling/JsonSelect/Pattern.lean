import JsonSelect.Error
import JsonSelect.Literal

/-! Patterns of LIKE conditions. -/
namespace JsonSelect

/-- A truth value or a number stands for itself; a text is looked for anywhere in the column. -/
inductive Pattern where
  | bare (value : Literal)
  | contains (inner : String)
deriving DecidableEq

namespace Pattern

/-- A text without one percent sign at its start and then one at its end. -/
def inner (text : List Char) : List Char :=
  let rest := if text.head? = some '%' then text.tail else text
  if rest.getLast? = some '%' then rest.dropLast else rest

def ofLiteral : Literal → Except Error Pattern
  | .null => .error .nullPattern
  | .bytes _ => .error .binaryPattern
  | .text value => .ok (contains (String.ofList (inner value.toList)))
  | value => .ok (bare value)

/-- Wildcards of the text stand for themselves. -/
def guarded (c : Char) : List Char := if c = '_' ∨ c = '%' then ['\\', c] else [c]

/-- The text is escaped for the quotes around it first and for the pattern after that. -/
def text : Pattern → String
  | bare value => value.escaped
  | contains inner =>
    String.ofList ('"' :: '%' :: (Literal.escapedText inner.toList).flatMap guarded ++ ['%', '"'])

end Pattern
end JsonSelect
