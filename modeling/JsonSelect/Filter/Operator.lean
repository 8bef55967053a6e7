/-! The operators of conditions and the tokens that spell them. -/
namespace JsonSelect

/-- The connective between sibling conditions. -/
inductive Connective where
  | and
  | or
deriving DecidableEq

namespace Connective

def keyword : Connective → String
  | and => "AND"
  | or => "OR"

/-- The key that stands for the connective in a condition object. -/
def key : Connective → String
  | and => "$and"
  | or => "$or"

/-- Keys of a condition object are compared exactly; every other key names a field. -/
def ofKey? (key : String) : Option Connective :=
  if key = "$and" then some and else if key = "$or" then some or else none

@[simp] theorem ofKey?_key (c : Connective) : ofKey? c.key = some c := by cases c <;> rfl

theorem ofKey?_of_ne {name : String} (h : ∀ connective : Connective, name ≠ connective.key) :
    ofKey? name = none := by
  have ha : name ≠ "$and" := h .and
  have ho : name ≠ "$or" := h .or
  rw [ofKey?, if_neg ha, if_neg ho]

end Connective

inductive Comparison where
  | eq
  | neq
  | lt
  | gt
  | lte
  | gte
deriving DecidableEq

def Comparison.symbol : Comparison → String
  | eq => "="
  | neq => "!="
  | lt => "<"
  | gt => ">"
  | lte => "<="
  | gte => ">="

/-- What a key of an operator map asks of its field. -/
inductive Operator where
  | compare (comparison : Comparison)
  | like
  | member (negated : Bool)
  | group (connective : Connective)
deriving DecidableEq

namespace Operator

/-- Every spelling, in lower case. -/
def spellings : List (String × Operator) := [
  ("$eq", .compare .eq), ("===", .compare .eq),
  ("$neq", .compare .neq), ("!==", .compare .neq),
  ("$lt", .compare .lt), ("<", .compare .lt),
  ("$gt", .compare .gt), (">", .compare .gt),
  ("$lte", .compare .lte), ("<=", .compare .lte),
  ("$gte", .compare .gte), (">=", .compare .gte),
  ("$like", .like), ("$in", .member false), ("$notin", .member true),
  ("$and", .group .and), ("$or", .group .or)]

/-- Tokens are compared without regard to the case of ASCII letters. -/
def ofToken? (token : String) : Option Operator :=
  spellings.lookup (String.ofList (token.toList.map Char.toLower))

/-- The spelling by name; comparisons have one by symbol as well. -/
def token : Operator → String
  | compare .eq => "$eq"
  | compare .neq => "$neq"
  | compare .lt => "$lt"
  | compare .gt => "$gt"
  | compare .lte => "$lte"
  | compare .gte => "$gte"
  | like => "$like"
  | member false => "$in"
  | member true => "$notin"
  | group c => c.key

theorem ofToken?_token (op : Operator) : ofToken? op.token = some op := by
  rcases op with (_ | _ | _ | _ | _ | _) | _ | (_ | _) | (_ | _) <;> decide

end Operator
end JsonSelect
