import JsonSelect.Filter.Operator
import JsonSelect.Json.Mismatch
import JsonSelect.Query.Selection

/-! Errors, by cause. -/
namespace JsonSelect

inductive ErrorKind where
  | config
  | condition
  | unknownOperator
  | validation
  | decode (column : String)
  | dateTime
  | json
deriving DecidableEq

namespace ErrorKind

def message (kind : ErrorKind) (detail : String) : String :=
  match kind with
  | config => "Configuration error: " ++ detail
  | condition => "Invalid condition: " ++ detail
  | unknownOperator => "Unknown operator '" ++ detail ++ "'"
  | validation => "Validation error: " ++ detail
  | decode column => "Decode error on column '" ++ column ++ "': " ++ detail
  | dateTime => "Datetime error: " ++ detail
  | json => "Deserialization error: " ++ detail

def isConfig (kind : ErrorKind) : Bool := kind = config

/-- Whether the conditions of a query are at fault. -/
def isCondition (kind : ErrorKind) : Bool := kind = condition ∨ kind = unknownOperator

end ErrorKind

inductive Error where
  | projectionConflict (selection : Selection)
  | missingTable
  | countedPage
  | longLimit (length : Nat)
  | limitEntry (got : Json)
  | limitShape (got : Json)
  | negativePage (page : Int)
  | negativeSize (size : Int)
  | farPage (page size : Int)
  | conditionsShape (got : Json)
  | groupShape (connective : Connective) (got : Json)
  | groupItem (connective : Connective) (got : Json)
  | listValue (field : String)
  | notScalar (operator field : String) (got : Json)
  | notList (operator field : String) (got : Json)
  | nullPattern
  | binaryPattern
  | unknownOperator (token : String)
  | emptyIdentifier
  | emptySegment (name : String)
  | badStart (c : Char)
  | badCharacter (c : Char)
  | noCount
  | badCount (got : Json)
  | unrecognisedDateTime (text : String)
  | mismatch (cause : Mismatch)

/-- The column of a count statement. -/
def countColumn : String := "COUNT(0)"

namespace Error

def kind : Error → ErrorKind
  | projectionConflict _ | missingTable | countedPage | longLimit _ | limitEntry _ | limitShape _
  | negativePage _ | negativeSize _ | farPage _ _ => .config
  | conditionsShape _ | groupShape _ _ | groupItem _ _ | listValue _ | notScalar _ _ _
  | notList _ _ _ | nullPattern | binaryPattern => .condition
  | unknownOperator _ => .unknownOperator
  | emptyIdentifier | emptySegment _ | badStart _ | badCharacter _ => .validation
  | noCount | badCount _ => .decode countColumn
  | unrecognisedDateTime _ => .dateTime
  | mismatch _ => .json

def detail : Error → String
  | projectionConflict selection =>
    "only one of fields, count and distincts can be set but got: " ++ selection.text
  | missingTable => "Table name is required"
  | countedPage => "paged queries need a row projection, not count"
  | longLimit length => s!"limit expects at most 2 elements [skip, limit] but got {length}"
  | limitEntry got => "limit entries must be non-negative integers but got: " ++ got.text
  | limitShape got => "Type of limit should be array but got: " ++ got.text
  | negativePage page => s!"page must be a positive integer but got: {page}"
  | negativeSize size => s!"page size must be a positive integer but got: {size}"
  | farPage page size => s!"page {page} of size {size} overflows"
  | conditionsShape got => "where must be an object but got: " ++ got.text
  | groupShape c got => c.key ++ " expects an object or an array of objects, got " ++ got.text
  | groupItem c got => c.key ++ " list items must be objects, got " ++ got.text
  | listValue field => s!"field `{field}` has an array value; use $in for list membership"
  | notScalar operator field got =>
    operator ++ " on `" ++ field ++ "` expects a scalar value, got " ++ got.text
  | notList operator field got =>
    operator ++ " on `" ++ field ++ "` expects an array, got " ++ got.text
  | nullPattern => "$like operand cannot be null"
  | binaryPattern => "$like operand cannot be binary"
  | unknownOperator token => token
  | emptyIdentifier => "Identifier cannot be empty"
  | emptySegment name => s!"Empty identifier segment in '{name}'"
  | badStart c => s!"Invalid identifier start character: '{c}'"
  | badCharacter c => s!"Invalid character in identifier: '{c}'"
  | noCount => "column missing from count result"
  | badCount got => "expected an integer, got " ++ got.text
  | unrecognisedDateTime text => "unrecognised datetime: " ++ Text.quoted text
  | mismatch cause => cause.text

def message (error : Error) : String := error.kind.message error.detail

end Error
end JsonSelect
