import JsonSelect.Error
import JsonSelect.Json.Integer
import JsonSelect.Json.Record

/-! How many rows a statement returns, and how many it passes over first. -/
namespace JsonSelect

/-- The rows from number `skip` on, counted from zero, and at most `size` of them. -/
structure Limit where
  skip : Int
  size : Int
deriving DecidableEq

namespace Limit

/-- A missing or null entry is no number; any other has to be one that is not negative. -/
def readEntry : Option Json → Except Error (Option Int)
  | none | some .null => .ok none
  | some value =>
    match value.integer? with
    | some n => if 0 ≤ n then .ok (some n) else .error (.limitEntry value)
    | none => .error (.limitEntry value)

/-- One number alone is the size, wherever it stands; without any there is one row. -/
def ofEntries : Option Int → Option Int → Limit
  | none, none => ⟨0, 1⟩
  | some size, none => ⟨0, size⟩
  | none, some size => ⟨0, size⟩
  | some skip, some size => ⟨skip, size⟩

def ofItems (items : List Json) : Except Error Limit :=
  if 2 < items.length then .error (.longLimit items.length)
  else do
    let first ← readEntry items[0]?
    let second ← readEntry items[1]?
    pure (ofEntries first second)

def ofJson : Json → Except Error Limit
  | .array items => ofItems items
  | other => .error (.limitShape other)

/-- Null stands for an absent limit. -/
def ofOption : Option Json → Except Error (Option Limit)
  | none | some .null => .ok none
  | some value => some <$> ofJson value

def sizeText (limit : Limit) : String := toString limit.size

def text (limit : Limit) : String := toString limit.skip ++ ", " ++ limit.sizeText

/-- The text of a limit without what it skips, on request. -/
def clause (value : Json) (sizeOnly : Bool) : Except Error String := do
  let limit ← ofJson value
  pure (if sizeOnly then limit.sizeText else limit.text)

def toJson (limit : Limit) : Json := .array [.ofInt limit.skip, .ofInt limit.size]

def toRecord (limit : Limit) : Json :=
  .object [("skip", .ofInt limit.skip), ("limit", .ofInt limit.size)]

def fieldNames : List String := ["skip", "limit"]

/-- The fields of a limit read so far. -/
def withField (parts : Option Int × Option Int) (field : String × Json) :
    Except Mismatch (Option Int × Option Int) :=
  match field.1 with
  | "skip" => do return (some (← field.2.asWord), parts.2)
  | "limit" => do return (parts.1, some (← field.2.asWord))
  | _ => .ok parts

/-- Both fields of the record are needed, and neither is looked at further. -/
def ofRecord (value : Json) : Except Mismatch Limit := do
  let parts ← value.readRecord "LimitPair" fieldNames withField (none, none)
  match parts, value with
  | (some skip, some size), _ => pure ⟨skip, size⟩
  | _, .array items => .error (.tooShort items.length "LimitPair" fieldNames.length)
  | (none, _), _ => .error (.missingField "skip")
  | (some _, none), _ => .error (.missingField "limit")

end Limit
end JsonSelect
