import JsonSelect.Json.Number

/-! JSON values. The fields of an object keep the order in which they were written. -/
namespace JsonSelect

inductive Json where
  | null
  | bool (value : Bool)
  | number (value : Number)
  | string (value : String)
  | array (items : List Json)
  | object (fields : List (String × Json))
deriving Inhabited

/-- The content of an object. -/
abbrev Fields := List (String × Json)

namespace Fields

def get? (fields : Fields) (key : String) : Option Json := List.lookup key fields

/-- A key that is already there keeps its place and takes the new value. -/
def insert (key : String) (value : Json) : Fields → Fields
  | [] => [(key, value)]
  | (other, old) :: rest =>
    if other = key then (key, value) :: rest else (other, old) :: insert key value rest

def ofList (entries : List (String × Json)) : Fields :=
  entries.foldl (fun fields entry => insert entry.1 entry.2 fields) []

end Fields

namespace Json

def ofInt (value : Int) : Json := number (.integer value)

def ofStrings (items : List String) : Json := array (items.map string)

def ofOption : Option Json → Json
  | none => null
  | some value => value

end Json
end JsonSelect
