import JsonSelect.Json.Record

/-! What a query sorts or groups by. -/
namespace JsonSelect

/-- The text of a clause, or the items of one. -/
inductive Terms where
  | raw (text : String)
  | list (items : List String)
deriving DecidableEq

namespace Terms

def text : Terms → String
  | raw text => text
  | list items => ",".intercalate items

/-- No terms have the empty text. -/
def optionText : Option Terms → String
  | none => ""
  | some terms => terms.text

def toJson : Terms → Json
  | raw text => .string text
  | list items => .ofStrings items

def ofJson (value : Json) : Except Mismatch Terms :=
  match value with
  | .string text => .ok (raw text)
  | .array items =>
    match Json.asStringItems items with
    | .ok items => .ok (list items)
    | .error _ => .error .noTerms
  | _ => .error .noTerms

theorem asStringItems_map_string (items : List String) :
    Json.asStringItems (items.map Json.string) = .ok items := by
  induction items with
  | nil => rfl
  | cons item rest ih =>
    simp only [List.map_cons, Json.asStringItems, Json.asString, ih]
    rfl

theorem ofJson_toJson (terms : Terms) : ofJson terms.toJson = .ok terms := by
  cases terms with
  | raw text => rfl
  | list items => simp [ofJson, toJson, Json.ofStrings, asStringItems_map_string]

end Terms
end JsonSelect
