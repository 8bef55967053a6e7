import JsonSelect.Filter.Basic
import JsonSelect.Outcome
import JsonSelect.Where.Basic

/-! The condition that a filter stands for. -/
namespace JsonSelect

/-- The atom of a comparison. No value is before or after null, so an ordering against null has
none. -/
def Comparison.atom? (column : Identifier) (comparison : Comparison) (value : Literal) :
    Option Atom :=
  if value.isNull then
    match comparison with
    | .eq => some (.isNull column)
    | .neq => some (.isNotNull column)
    | _ => none
  else some (.compare column comparison value)

/-- Nothing is a member of the empty list. -/
def Atom.ofMember (column : Identifier) (negated : Bool) : List Literal → Atom
  | [] => if negated then .always else .never
  | first :: rest => .member column negated first rest

def Atom.ofValue (column : Identifier) (value : Literal) : Atom :=
  if value.isNull then .isNull column else .compare column .eq value

mutual

/-- `joiner` is the connective between the tests of an operator map; a bare value stands without
parentheses. -/
def Requirement.clause (column : Identifier) (joiner : Connective) :
    Requirement → Outcome (Option Clause)
  | .equals value => pure (some (.single (.ofValue column value)))
  | .tests tests => Clause.enclosed joiner <$> Test.clauses column tests

def Test.clauses (column : Identifier) : List Test → Outcome (List Clause)
  | [] => pure []
  | test :: rest => do
    let part ← test.clause column
    let parts ← Test.clauses column rest
    pure (part.toList ++ parts)

/-- A group is joined without parentheses around it. -/
def Test.clause (column : Identifier) : Test → Outcome (Option Clause)
  | .compare comparison value =>
    match comparison.atom? column value with
    | some atom => pure (some (.single atom))
    | none => do
      .emit (.unorderedNull column.text comparison)
      pure none
  | .like operand => do
    let pattern ← Pattern.ofLiteral operand
    pure (some (.single (.like column pattern)))
  | .member values negated => pure (some (.single (.ofMember column negated values)))
  | .group connective items => Clause.join connective <$> Requirement.clauses column connective items

def Requirement.clauses (column : Identifier) (joiner : Connective) :
    List Requirement → Outcome (List Clause)
  | [] => pure []
  | item :: rest => do
    let part ← item.clause column joiner
    let parts ← Requirement.clauses column joiner rest
    pure (part.toList ++ parts)

end

mutual

def Entry.clause (policy : NamePolicy) : Entry → Outcome (Option Clause)
  | .nested connective filter => Clause.enclosed connective <$> Entry.clauses policy filter
  | .each connective filters => Clause.enclosed connective <$> Filter.clauses policy filters
  | .field name requirement => do
    let column ← Identifier.ofName policy name
    requirement.clause column .and

def Entry.clauses (policy : NamePolicy) : List Entry → Outcome (List Clause)
  | [] => pure []
  | entry :: rest => do
    let part ← entry.clause policy
    let parts ← Entry.clauses policy rest
    pure (part.toList ++ parts)

def Filter.clauses (policy : NamePolicy) : List (List Entry) → Outcome (List Clause)
  | [] => pure []
  | filter :: rest => do
    let part ← Clause.enclosed .and <$> Entry.clauses policy filter
    let parts ← Filter.clauses policy rest
    pure (part.toList ++ parts)

end

/-- The entries joined by `connective` in one pair of parentheses, or nothing when no entry
contributes a condition. -/
def Filter.clause (policy : NamePolicy) (connective : Connective) (filter : Filter) :
    Outcome (Option Clause) :=
  Clause.enclosed connective <$> Entry.clauses policy filter

end JsonSelect
