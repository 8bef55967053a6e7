import JsonSelect.Json.Basic
import JsonSelect.Text.Integer

/-! The whole number that a JSON value stands for. -/
namespace JsonSelect

/-- Fractions are cut off, and a text counts by the number that it starts with. -/
def Json.integer? : Json → Option Int
  | .number (.integer value) => if isWord value then some value else none
  | .number (.double value) => value.truncate?
  | .string text => Text.leadingInteger? text.toList
  | _ => none

end JsonSelect
