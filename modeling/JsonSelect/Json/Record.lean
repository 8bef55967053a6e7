import JsonSelect.Json.Mismatch

/-! Records described by JSON: an object gives the fields by name, a list by position. -/
namespace JsonSelect.Json

def asString : Json → Except Mismatch String
  | string value => .ok value
  | other => .error (.wrongType other .string)

def asBool : Json → Except Mismatch Bool
  | bool value => .ok value
  | other => .error (.wrongType other .boolean)

def asStringItems : List Json → Except Mismatch (List String)
  | [] => .ok []
  | item :: rest => do
    let value ← asString item
    let values ← asStringItems rest
    pure (value :: values)

def asStrings : Json → Except Mismatch (List String)
  | array items => asStringItems items
  | other => .error (.wrongType other .sequence)

/-- A whole number of 64 bits with a sign. -/
def asWord : Json → Except Mismatch Int
  | number (.integer value) =>
    if isWord value then .ok value else .error (.outOfRange value)
  | other => .error (.wrongType other .integer)

/-- Null stands for an absent value. -/
def asOption {α : Type} (decode : Json → Except Mismatch α) : Json → Except Mismatch (Option α)
  | null => .ok none
  | value => some <$> decode value

/-- The named values of a record. Names and positions beyond the declared ones are dropped where
the values are used. -/
def recordFields (record : String) (names : List String) : Json → Except Mismatch Fields
  | object fields => .ok fields
  | array items => .ok (names.zip items)
  | other => .error (.wrongType other (.record record))

/-- A list may leave out the last fields of a record but not go on after them. -/
def checkLength (names : List String) : Json → Except Mismatch Unit
  | array items => if names.length < items.length then .error (.tooLong items.length) else .ok ()
  | _ => .ok ()

/-- The record that grows from `start` by one field after another. A fault in a field is found
before a list that is too long. -/
def readRecord {α : Type} (record : String) (names : List String)
    (withField : α → String × Json → Except Mismatch α) (start : α) (value : Json) :
    Except Mismatch α := do
  let fields ← recordFields record names value
  let result ← fields.foldlM withField start
  checkLength names value
  pure result

end JsonSelect.Json
