import JsonSelect.Identifier
import JsonSelect.Pattern

/-! Conditions of a statement: their structure and their text. -/
namespace JsonSelect

/-- A condition that no connective takes apart. A list of values has at least one. -/
inductive Atom where
  | isNull (column : Identifier)
  | isNotNull (column : Identifier)
  | compare (column : Identifier) (comparison : Comparison) (value : Literal)
  | like (column : Identifier) (pattern : Pattern)
  | member (column : Identifier) (negated : Bool) (first : Literal) (rest : List Literal)
  | never
  | always
deriving DecidableEq

def Atom.text : Atom → String
  | isNull column => column.text ++ " IS NULL"
  | isNotNull column => column.text ++ " IS NOT NULL"
  | compare column comparison value =>
    column.text ++ " " ++ comparison.symbol ++ " " ++ value.quoted
  | like column pattern => column.text ++ " LIKE " ++ pattern.text
  | member column negated first rest =>
    column.text ++ (if negated then " NOT IN (" else " IN (") ++
      ", ".intercalate ((first :: rest).map Literal.quoted) ++ ")"
  | never => "1=0"
  | always => "1=1"

/-- A condition as it is written. A chain has no parentheses of its own. -/
inductive Clause where
  | single (atom : Atom)
  | chain (connective : Connective) (parts : List Clause)
  | parens (inner : Clause)

namespace Clause

/-- The parts joined into one condition; nothing when there is no part. -/
def join (connective : Connective) (parts : List Clause) : Option Clause :=
  if parts.isEmpty then none else some (chain connective parts)

def enclosed (connective : Connective) (parts : List Clause) : Option Clause :=
  (join connective parts).map parens

mutual

def text : Clause → String
  | single atom => atom.text
  | chain connective parts => (" " ++ connective.keyword ++ " ").intercalate (texts parts)
  | parens inner => "(" ++ text inner ++ ")"

def texts : List Clause → List String
  | [] => []
  | part :: rest => text part :: texts rest

end

theorem texts_eq_map (parts : List Clause) : texts parts = parts.map text := by
  induction parts with
  | nil => rfl
  | cons part rest ih => simp [texts, ih]

/-- No condition at all has the empty text. -/
def optionText : Option Clause → String
  | none => ""
  | some clause => clause.text

end Clause
end JsonSelect
