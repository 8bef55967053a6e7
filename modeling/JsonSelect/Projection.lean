import JsonSelect.Error

/-! The list that a statement selects. -/
namespace JsonSelect

inductive Projection where
  | all
  | fields (columns : List String)
  | count
  | distinct (columns : List String)
deriving DecidableEq

def Projection.text : Projection → String
  | all => "*"
  | fields columns => ",".intercalate columns
  | count => countColumn
  | distinct columns => "DISTINCT " ++ ",".intercalate columns

namespace Selection

def isSet (columns : Option (List String)) : Bool :=
  match columns with
  | none | some [] => false
  | some (_ :: _) => true

/-- How many projections are asked for. -/
def requests (selection : Selection) : Nat :=
  (isSet selection.fields).toNat + selection.count.toNat + (isSet selection.distincts).toNat

def check (selection : Selection) : Except Error Unit :=
  if 1 < selection.requests then .error (.projectionConflict selection) else .ok ()

def projection (selection : Selection) : Except Error Projection := do
  selection.check
  if selection.count then return .count
  match selection.fields, selection.distincts with
  | some (column :: more), _ => return .fields (column :: more)
  | _, some (column :: more) => return .distinct (column :: more)
  | _, _ => return .all

end Selection
end JsonSelect
