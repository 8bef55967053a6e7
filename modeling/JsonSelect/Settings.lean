import JsonSelect.Event
import JsonSelect.Filter.Reading
import JsonSelect.Identifier

/-! What can be chosen about the building of statements. -/
namespace JsonSelect

/-- Reports finished statements, cut to a number of bytes. -/
structure Logger where
  level : Level := .debug
  maxLength : Option Nat := some 200
deriving DecidableEq

namespace Logger

/-- The longest beginning of a text whose encoding has at most `size` bytes. -/
def headWithin (size : Nat) : List Char → List Char
  | [] => []
  | c :: rest => if c.utf8Size ≤ size then c :: headWithin (size - c.utf8Size) rest else []

def shorten (logger : Logger) (text : String) : String :=
  match logger.maxLength with
  | none => text
  | some size =>
    if text.utf8ByteSize ≤ size then text
    else String.ofList (headWithin size text.toList) ++ "..."

def event (logger : Logger) (kind : SelectKind) (table statement : String) : Event :=
  .built logger.level kind table (logger.shorten statement)

end Logger

/-- By default unknown operators are skipped, names are taken as they are and nothing is logged. -/
structure Settings where
  unknownOperators : UnknownOperators := .skip
  names : NamePolicy := .verbatim
  logger : Option Logger := none
deriving DecidableEq

namespace Settings

/-- Unknown operators are errors, and names have to be dotted words. -/
def strict (settings : Settings) : Settings :=
  { settings with unknownOperators := .reject, names := .strict }

end Settings
end JsonSelect
