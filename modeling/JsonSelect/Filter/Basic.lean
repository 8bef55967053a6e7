import JsonSelect.Filter.Operator
import JsonSelect.Literal

/-! Boolean filters over the fields of a record. -/
namespace JsonSelect

mutual

/-- What is asked of one field: a value, or a list of tests that belong together. -/
inductive Requirement where
  | equals (value : Literal)
  | tests (tests : List Test)

/-- An operator with its operand. A group asks each of its items of the same field. -/
inductive Test where
  | compare (comparison : Comparison) (value : Literal)
  | like (operand : Literal)
  | member (values : List Literal) (negated : Bool)
  | group (connective : Connective) (items : List Requirement)

end

/-- One member of a filter. The entries of a nested filter are joined by its connective; a list of
filters, each with its entries joined by AND, is joined by its own. -/
inductive Entry where
  | nested (connective : Connective) (filter : List Entry)
  | each (connective : Connective) (filters : List (List Entry))
  | field (name : String) (requirement : Requirement)

/-- Entries in the order in which they were written. What joins the outermost ones is decided
where the filter is used. -/
abbrev Filter := List Entry

namespace Filter

def field (filter : Filter) (name : String) (requirement : Requirement) : Filter :=
  filter ++ [.field name requirement]

def test (filter : Filter) (name : String) (test : Test) : Filter :=
  filter.field name (.tests [test])

def equals (filter : Filter) (name : String) (value : Literal) : Filter :=
  filter.field name (.equals value)

def compare (filter : Filter) (name : String) (comparison : Comparison) (value : Literal) :
    Filter :=
  filter.test name (.compare comparison value)

def like (filter : Filter) (name : String) (operand : Literal) : Filter :=
  filter.test name (.like operand)

def isIn (filter : Filter) (name : String) (values : List Literal) : Filter :=
  filter.test name (.member values false)

def notIn (filter : Filter) (name : String) (values : List Literal) : Filter :=
  filter.test name (.member values true)

def all (filter inner : Filter) : Filter := filter ++ [.nested .and inner]

def any (filter inner : Filter) : Filter := filter ++ [.nested .or inner]

def each (filter : Filter) (connective : Connective) (filters : List Filter) : Filter :=
  filter ++ [.each connective filters]

def anyOf (filter : Filter) (filters : List Filter) : Filter := filter.each .or filters

end Filter
end JsonSelect
