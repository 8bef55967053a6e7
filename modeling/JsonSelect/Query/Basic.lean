import JsonSelect.Query.Terms

/-! Descriptions of queries on one table. -/
namespace JsonSelect

/-- The conditions and the limit are kept as they were given; what is wrong with them shows when a
statement is built. -/
structure Query where
  table : String := ""
  conditions : Option Json := none
  orderBy : Option Terms := none
  limit : Option Json := none
  groupBy : Option Terms := none

namespace Query

def fieldNames : List String := ["table", "where", "orderBy", "limit", "groupBy"]

def withField (query : Query) (field : String × Json) : Except Mismatch Query :=
  match field.1 with
  | "table" => do return { query with table := ← field.2.asString }
  | "where" => do return { query with conditions := ← field.2.asOption .ok }
  | "orderBy" => do return { query with orderBy := ← field.2.asOption Terms.ofJson }
  | "limit" => do return { query with limit := ← field.2.asOption .ok }
  | "groupBy" => do return { query with groupBy := ← field.2.asOption Terms.ofJson }
  | _ => .ok query

def ofJson (value : Json) : Except Mismatch Query := value.readRecord "Query" fieldNames withField {}

/-- The part of an object that holds an optional field. -/
def part (name : String) (value : Option Json) : Fields :=
  match value with
  | none => []
  | some value => [(name, value)]

/-- Absent parts are left out. -/
def toJson (query : Query) : Json :=
  .object (("table", .string query.table) :: part "where" query.conditions ++
    part "orderBy" (query.orderBy.map Terms.toJson) ++ part "limit" query.limit ++
    part "groupBy" (query.groupBy.map Terms.toJson))

end Query
end JsonSelect
