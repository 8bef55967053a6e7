import JsonSelect.Limit

/-! Pages of rows and the number of rows in all. -/
namespace JsonSelect

/-- A page number or a page size as it arrives. -/
inductive PageInput where
  | absent
  | integer (value : Int)
  | text (value : String)
  | json (value : Json)

def PageInput.value? : PageInput → Option Int
  | absent => none
  | integer value => if isWord value then some value else none
  | text value => Text.leadingInteger? value.toList
  | json value => value.integer?

/-- The number that stands in the place of a missing one or of zero is `default`. -/
def PageInput.valueOr (input : PageInput) (default : Int) : Int :=
  match input.value? with
  | none => default
  | some n => if n = 0 then default else n

namespace Limit

def defaultPage : Int := 1

def defaultSize : Int := 10

/-- The rows of a page, counted from page one. -/
def ofNumbers (page size : Int) : Except Error Limit :=
  if page < 0 then .error (.negativePage page)
  else if size < 0 then .error (.negativeSize size)
  else if wordEnd ≤ (page - 1) * size then .error (.farPage page size)
  else .ok ⟨(page - 1) * size, size⟩

def ofPage (page size : PageInput) : Except Error Limit :=
  ofNumbers (page.valueOr defaultPage) (size.valueOr defaultSize)

end Limit

/-- The number in the first row of a count; no row counts as zero. -/
def countOfRows : List Fields → Except Error Int
  | [] => .ok 0
  | row :: _ =>
    match Fields.get? row countColumn with
    | none => .error .noCount
    | some value =>
      match value.integer? with
      | some count => .ok count
      | none => .error (.badCount value)

end JsonSelect
