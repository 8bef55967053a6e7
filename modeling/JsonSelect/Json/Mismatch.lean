import JsonSelect.Json.Text
import JsonSelect.Text.Quoted

/-! The ways in which a JSON value can fail to describe a record. -/
namespace JsonSelect

inductive Expected where
  | string
  | boolean
  | sequence
  | integer
  | record (name : String)
deriving DecidableEq

def Expected.text : Expected → String
  | string => "a string"
  | boolean => "a boolean"
  | sequence => "a sequence"
  | integer => "i64"
  | record name => "struct " ++ name

inductive Mismatch where
  | wrongType (got : Json) (expected : Expected)
  | outOfRange (got : Int)
  | missingField (name : String)
  | tooShort (length : Nat) (record : String) (size : Nat)
  | tooLong (length : Nat)
  | noTerms

namespace Mismatch

/-- Scalars are shown, lists and objects only named. -/
def describe : Json → String
  | .null => "null"
  | .bool value => "boolean `" ++ (if value then "true" else "false") ++ "`"
  | .number (.integer value) => "integer `" ++ toString value ++ "`"
  | .number (.double value) => "floating point `" ++ (Number.double value).text ++ "`"
  | .string value => "string " ++ Text.quoted value
  | .array _ => "sequence"
  | .object _ => "map"

def text : Mismatch → String
  | wrongType got expected => "invalid type: " ++ describe got ++ ", expected " ++ expected.text
  | outOfRange got =>
    "invalid value: integer `" ++ toString got ++ "`, expected " ++ Expected.integer.text
  | missingField name => "missing field `" ++ name ++ "`"
  | tooShort length record size =>
    s!"invalid length {length}, expected struct {record} with {size} elements"
  | tooLong length => s!"invalid length {length}, expected fewer elements in array"
  | noTerms => "data did not match any variant of untagged enum OrderBy"

end Mismatch
end JsonSelect
