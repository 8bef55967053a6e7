import JsonSelect.Page
import JsonSelect.Projection
import JsonSelect.Query.Basic
import JsonSelect.Settings
import JsonSelect.Where.OfFilter

/-! SELECT statements for queries. -/
namespace JsonSelect

/-- The parts of a statement. Empty groupings and orders are left out of its text. -/
structure Statement where
  projection : Projection
  table : Identifier
  condition : Option Clause := none
  groupBy : String := ""
  orderBy : String := ""
  limit : Option Limit := none

namespace Statement

/-- A keyword with its body and a space after it, or nothing when there is no body. -/
def part (keyword body : String) : String :=
  if body = "" then "" else keyword ++ " " ++ body ++ " "

def limitPart (statement : Statement) : String :=
  match statement.limit with
  | none => ""
  | some limit => "LIMIT " ++ limit.text

/-- The parts in their order, with a space after each but the last. -/
def parts (statement : Statement) : String :=
  "SELECT " ++ statement.projection.text ++ " FROM " ++ statement.table.text ++ " " ++
    part "WHERE" (Clause.optionText statement.condition) ++
    part "GROUP BY" statement.groupBy ++ part "ORDER BY" statement.orderBy ++
    statement.limitPart

def text (statement : Statement) : String :=
  String.ofList (Text.trimEnd statement.parts.toList)

def kind (statement : Statement) : SelectKind :=
  match statement.projection with
  | .count => .count
  | _ => .select

end Statement

namespace Settings

/-- The condition that a condition object stands for. -/
def condition (settings : Settings) (fields : Fields) : Outcome (Option Clause) := do
  let filter ← Filter.read settings.unknownOperators fields
  filter.clause settings.names .and

def conditionOf (settings : Settings) : Option Json → Outcome (Option Clause)
  | none | some .null => pure none
  | some (.object fields) => settings.condition fields
  | some other => .fail (.conditionsShape other)

/-- A count takes no order and no limit, and does not look at them. -/
def assemble (settings : Settings) (query : Query) (selection : Selection) : Outcome Statement := do
  let projection ← selection.projection
  if query.table = "" then Outcome.fail .missingTable
  let table ← Identifier.ofName settings.names query.table
  let condition ← settings.conditionOf query.conditions
  let grouped : Statement :=
    { projection, table, condition, groupBy := Terms.optionText query.groupBy }
  if selection.count then return grouped
  let limit ← Limit.ofOption query.limit
  return { grouped with orderBy := Terms.optionText query.orderBy, limit }

def report (settings : Settings) (kind : SelectKind) (table text : String) : Outcome Unit :=
  match settings.logger with
  | none => pure ()
  | some logger => .emit (logger.event kind table text)

/-- The text of the statement for a query. The log gets it when it is finished. -/
def statement (settings : Settings) (query : Query) (selection : Selection) : Outcome String := do
  let statement ← settings.assemble query selection
  settings.report statement.kind query.table statement.text
  return statement.text

/-- The rows of one page, and the number of rows on all pages. -/
structure Paged where
  rows : String
  count : String
  limit : Limit

def paged (settings : Settings) (query : Query) (selection : Selection) (page size : PageInput) :
    Outcome Paged := do
  if selection.count then Outcome.fail .countedPage
  let limit ← Limit.ofPage page size
  let rows ← settings.statement { query with limit := some limit.toJson } selection
  let count ← settings.statement query { count := true }
  return { rows, count, limit }

end Settings
end JsonSelect
