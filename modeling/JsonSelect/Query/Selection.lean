import JsonSelect.Json.Record

/-! What a query selects. -/
namespace JsonSelect

/-- A list of columns to return, the request to count, or a list of columns to tell apart. An empty
list is the same as none. -/
structure Selection where
  fields : Option (List String) := none
  count : Bool := false
  distincts : Option (List String) := none
deriving DecidableEq

namespace Selection

def listText (items : List String) : String :=
  "[" ++ ", ".intercalate (items.map Text.quoted) ++ "]"

def optionText : Option (List String) → String
  | none => "None"
  | some items => "Some(" ++ listText items ++ ")"

/-- The selection as a message shows it. -/
def text (selection : Selection) : String :=
  "QueryOptions \x7b fields: " ++ optionText selection.fields ++
    ", count: " ++ (if selection.count then "true" else "false") ++
    ", distincts: " ++ optionText selection.distincts ++ " \x7d"

def fieldNames : List String := ["fields", "count", "distincts"]

def withField (selection : Selection) (field : String × Json) : Except Mismatch Selection :=
  match field.1 with
  | "fields" => do return { selection with fields := ← field.2.asOption Json.asStrings }
  | "count" => do return { selection with count := ← field.2.asBool }
  | "distincts" => do return { selection with distincts := ← field.2.asOption Json.asStrings }
  | _ => .ok selection

def ofJson (value : Json) : Except Mismatch Selection :=
  value.readRecord "QueryOptions" fieldNames withField {}

def toJson (selection : Selection) : Json :=
  .object [("fields", .ofOption (selection.fields.map .ofStrings)), ("count", .bool selection.count),
    ("distincts", .ofOption (selection.distincts.map .ofStrings))]

end Selection
end JsonSelect
