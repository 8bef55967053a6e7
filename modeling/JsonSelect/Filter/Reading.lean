import JsonSelect.Filter.Basic
import JsonSelect.Outcome

/-! Filters as JSON objects describe them. -/
namespace JsonSelect

/-- A token that spells no operator is left out, with a word to the log, or is an error. -/
inductive UnknownOperators where
  | skip
  | reject
deriving DecidableEq

namespace Filter

def readScalar (operator field : String) (value : Json) : Except Error Literal :=
  match Literal.ofJson? value with
  | some literal => .ok literal
  | none => .error (.notScalar operator field value)

def readScalars (operator field : String) : List Json → Except Error (List Literal)
  | [] => .ok []
  | item :: rest => do
    let value ← readScalar operator field item
    let values ← readScalars operator field rest
    pure (value :: values)

def readMember (negated : Bool) (token field : String) : Json → Except Error Test
  | .array items => do
    let values ← readScalars token field items
    pure (.member values negated)
  | other => .error (.notList token field other)

def passOver (policy : UnknownOperators) (field token : String) : Outcome Unit :=
  match policy with
  | .skip => .emit (.skippedOperator field token)
  | .reject => .fail (.unknownOperator token)

mutual

/-- The fields of a condition object, in their order. -/
def read (policy : UnknownOperators) : List (String × Json) → Outcome Filter
  | [] => pure []
  | (key, value) :: rest => do
    let entry ← match Connective.ofKey? key with
      | some connective => readGroup policy connective value
      | none => Entry.field key <$> readField policy key value
    let entries ← read policy rest
    pure (entry :: entries)

def readGroup (policy : UnknownOperators) (connective : Connective) : Json → Outcome Entry
  | .object fields => Entry.nested connective <$> read policy fields
  | .array items => Entry.each connective <$> readEach policy connective items
  | other => .fail (.groupShape connective other)

def readEach (policy : UnknownOperators) (connective : Connective) :
    List Json → Outcome (List Filter)
  | [] => pure []
  | .object fields :: rest => do
    let filter ← read policy fields
    let filters ← readEach policy connective rest
    pure (filter :: filters)
  | other :: _ => .fail (.groupItem connective other)

def readField (policy : UnknownOperators) (field : String) : Json → Outcome Requirement
  | .object operators => Requirement.tests <$> readTests policy field operators
  | .array _ => .fail (.listValue field)
  | scalar => .equals <$> readScalar (Comparison.symbol .eq) field scalar

def readFields (policy : UnknownOperators) (field : String) :
    List Json → Outcome (List Requirement)
  | [] => pure []
  | item :: rest => do
    let condition ← readField policy field item
    let conditions ← readFields policy field rest
    pure (condition :: conditions)

def readTests (policy : UnknownOperators) (field : String) :
    List (String × Json) → Outcome (List Test)
  | [] => pure []
  | (token, operand) :: rest =>
    match Operator.ofToken? token with
    | none => do
      passOver policy field token
      readTests policy field rest
    | some operator => do
      let test ← match operator with
        | .compare comparison =>
          Test.compare comparison <$> readScalar comparison.symbol field operand
        | .like => Test.like <$> readScalar "LIKE" field operand
        | .member negated => readMember negated token field operand
        | .group connective => Test.group connective <$> readItems policy field operand
      let tests ← readTests policy field rest
      pure (test :: tests)

/-- A group takes a list of conditions on its field, or a single one. -/
def readItems (policy : UnknownOperators) (field : String) :
    Json → Outcome (List Requirement)
  | .array items => readFields policy field items
  | .object operators => do
    let tests ← readTests policy field operators
    pure [.tests tests]
  | scalar => do
    let value ← readScalar (Comparison.symbol .eq) field scalar
    pure [.equals value]

end

end Filter
end JsonSelect
