import JsonSelect.Proofs.Sql.Line
import JsonSelect.Proofs.Sql.Token

/-! Conditions read from their tokens. -/
namespace JsonSelect.Sql

/-- How far an atom has been read: what was the last token of it, or what has to be the next. -/
inductive Spot where
  | column
  | part
  | operand
  | is
  | isNot
  | negated
  | list
  | value
  | more
  | constant
  | equals
  | done
deriving DecidableEq

def Token.isValue : Token → Bool
  | string _ | bytes _ | number _ => true
  | word letters => letters = "NULL" || letters = "true" || letters = "false"
  | _ => false

def Token.isComparison : Token → Bool
  | operator symbol => ["=", "!=", "<", ">", "<=", ">="].contains symbol
  | _ => false

namespace Spot

def first : Token → Option Spot
  | .name _ => some column
  | .number digits => if digits = "1" then some constant else none
  | _ => none

def next : Spot → Token → Option Spot
  | column, .dot => some part
  | column, .word letters =>
    if letters = "IS" then some is
    else if letters = "LIKE" then some operand
    else if letters = "NOT" then some negated
    else if letters = "IN" then some list
    else none
  | column, token => if token.isComparison then some operand else none
  | part, .name _ => some column
  | operand, token => if token.isValue then some done else none
  | is, .word letters =>
    if letters = "NOT" then some isNot else if letters = "NULL" then some done else none
  | isNot, .word letters => if letters = "NULL" then some done else none
  | negated, .word letters => if letters = "IN" then some list else none
  | list, .opening => some value
  | value, token => if token.isValue then some more else none
  | more, .comma => some value
  | more, .closing => some done
  | constant, .operator symbol => if symbol = "=" then some equals else none
  | equals, .number digits => if digits = "0" ∨ digits = "1" then some done else none
  | _, _ => none

end Spot

/-- What has been read of the operand at hand. -/
inductive Mode where
  | ready
  | within (spot : Spot) (read : List Token)
  | ended
deriving DecidableEq

/-- The row at hand and the rows of the parentheses around it, the innermost first. An atom is
known by its tokens. -/
structure Reader where
  outer : List (Line (List Token))
  line : Line (List Token)
  mode : Mode

namespace Reader

def start : Reader := ⟨[], .empty, .ready⟩

def step : Reader → Token → Option Reader
  | ⟨outer, line, .ready⟩, token =>
    if token = .opening then some ⟨line :: outer, .empty, .ready⟩
    else (Spot.first token).map fun spot => ⟨outer, line, .within spot [token]⟩
  | ⟨outer, line, .within spot read⟩, token =>
    (spot.next token).map fun next =>
      if next = .done then ⟨outer, line.and (.operand (.atom (read ++ [token]))), .ended⟩
      else ⟨outer, line, .within next (read ++ [token])⟩
  | ⟨outer, line, .ended⟩, .word letters =>
    if letters = "AND" then some ⟨outer, line, .ready⟩
    else if letters = "OR" then some ⟨outer, line.cut, .ready⟩
    else none
  | ⟨around :: outer, line, .ended⟩, .closing =>
    some ⟨outer, around.and (.operand line.expression), .ended⟩
  | _, _ => none

/-- What has been read, if it can end here. -/
def finish : Reader → Option (Expression (List Token))
  | ⟨[], line, .ended⟩ => some line.expression
  | _ => none

end Reader

/-- The expression that the tokens of a condition spell, with AND binding tighter than OR. -/
def read (found : List Token) : Option (Expression (List Token)) :=
  found.foldlM Reader.step Reader.start >>= Reader.finish

/-- The expression that the text of a condition spells. -/
def expression? (sql : String) : Option (Expression (List Token)) := tokens sql >>= read

variable {found more : List Token} {line others : Line (List Token)}

/-- After the tokens, whatever stood before them, the row at hand goes on with `line`. -/
def Reads (found : List Token) (line : Line (List Token)) : Prop :=
  ∀ outer before, found.foldlM Reader.step ⟨outer, before, .ready⟩ =
    some ⟨outer, before.and line, .ended⟩

namespace Reads

theorem read_eq (h : Reads found line) : read found = some line.expression := by
  rw [read, Reader.start, h, Line.empty_and]
  rfl

theorem op (connective : Connective) (h : Reads found line) (hm : Reads more others) :
    Reads (found ++ .word connective.keyword :: more) (line.op connective others) := by
  intro outer before
  rw [List.foldlM_append, h, Option.bind_eq_bind, Option.bind_some, List.foldlM_cons]
  cases connective with
  | and => exact (hm outer (before.and line)).trans (by rw [Line.and_assoc]; rfl)
  | or => exact (hm outer (before.and line).cut).trans (by rw [Line.cut_and]; rfl)

theorem parens (h : Reads found line) :
    Reads (.opening :: (found ++ [.closing])) (.operand line.expression) := by
  intro outer before
  rw [List.foldlM_cons]
  have hi := h (before :: outer) .empty
  rw [Line.empty_and] at hi
  simp only [Reader.step, if_true, Option.bind_eq_bind, Option.bind_some, List.foldlM_append, hi]
  rfl

end Reads
end JsonSelect.Sql
