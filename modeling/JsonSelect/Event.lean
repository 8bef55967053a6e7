import JsonSelect.Filter.Operator

/-! What a program that builds statements can be told while it runs. -/
namespace JsonSelect

inductive Level where
  | error
  | warn
  | info
  | debug
  | trace
deriving DecidableEq

inductive SelectKind where
  | select
  | count
deriving DecidableEq

def SelectKind.text : SelectKind → String
  | select => "Select"
  | count => "Count"

/-- Events about conditions and events about finished statements are listened to separately. -/
inductive Channel where
  | conditions
  | statements
deriving DecidableEq

inductive Event where
  | skippedOperator (field token : String)
  | unorderedNull (column : String) (comparison : Comparison)
  | built (level : Level) (kind : SelectKind) (table statement : String)
deriving DecidableEq

namespace Event

def channel : Event → Channel
  | skippedOperator _ _ | unorderedNull _ _ => .conditions
  | built _ _ _ _ => .statements

def level : Event → Level
  | skippedOperator _ _ | unorderedNull _ _ => .debug
  | built level _ _ _ => level

/-- The named texts of the event, in the order in which a log shows them. -/
def fields : Event → List (String × String)
  | skippedOperator field token =>
    [("message", "skipping unknown operator"), ("field", field), ("token", token)]
  | unorderedNull column comparison =>
    [("message", "no SQL for ordering comparison against null"), ("column", column),
      ("op", comparison.symbol)]
  | built _ kind table statement =>
    [("kind", kind.text), ("table", table), ("sql", statement)]

end Event
end JsonSelect
