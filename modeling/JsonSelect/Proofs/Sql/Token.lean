import JsonSelect.Where.Basic

/-! The tokens of a MySQL condition, and the scanner that splits a text into them. -/
namespace JsonSelect.Sql

/-- Names and strings are held without their quotes, and strings without their escapes. -/
inductive Token where
  | name (content : String)
  | string (content : String)
  | bytes (digits : String)
  | number (digits : String)
  | word (letters : String)
  | operator (symbol : String)
  | dot
  | comma
  | opening
  | closing
deriving DecidableEq

/-- How far a number has been read. -/
inductive Stage where
  | minus
  | whole
  | point
  | fraction
  | mark
  | sign
  | power
deriving DecidableEq

namespace Stage

/-- The stage after one more character of the same number. -/
def next : Stage → Char → Option Stage
  | minus, c => if c.isDigit then some whole else none
  | whole, c =>
    if c.isDigit then some whole else if c = '.' then some point
    else if c = 'e' then some mark else none
  | point, c => if c.isDigit then some fraction else none
  | fraction, c => if c.isDigit then some fraction else if c = 'e' then some mark else none
  | mark, c => if c.isDigit then some power else if c = '+' ∨ c = '-' then some sign else none
  | sign, c => if c.isDigit then some power else none
  | power, c => if c.isDigit then some power else none

/-- Whether a number can end here. -/
def isEnd : Stage → Bool
  | whole | fraction | power => true
  | _ => false

end Stage

/-- What the characters since the last finished token belong to. A quote may end a name or a
string, or be the first half of a doubled one. -/
inductive State where
  | between
  | name (read : List Char)
  | nameQuote (read : List Char)
  | string (read : List Char)
  | escape (read : List Char)
  | stringQuote (read : List Char)
  | bytes (read : List Char)
  | word (read : List Char)
  | operator (read : List Char)
  | number (stage : Stage) (read : List Char)

def isWordStart (c : Char) : Bool := c = '_' || c.isAlpha

def isWordPart (c : Char) : Bool := c = '_' || c = '$' || c.isAlphanum

def isHexDigit (c : Char) : Bool := c.isDigit || ('a' ≤ c && c ≤ 'f') || ('A' ≤ c && c ≤ 'F')

def isOperatorPart (c : Char) : Bool := c = '=' || c = '!' || c = '<' || c = '>'

/-- What a backslash and `c` stand for in a string. The wildcards of patterns keep their backslash,
and it is up to LIKE to take it away. -/
def unescaped (c : Char) : List Char :=
  match c with
  | '0' => ['\x00']
  | 'n' => ['\n']
  | 'r' => ['\r']
  | 'b' => ['\x08']
  | 't' => ['\t']
  | 'Z' => ['\x1a']
  | '%' => ['\\', '%']
  | '_' => ['\\', '_']
  | c => [c]

/-- The token of a text that ends in the given state, if it may end there. -/
def State.finish : State → Option (List Token)
  | between => some []
  | nameQuote read => some [.name (String.ofList read)]
  | stringQuote read => some [.string (String.ofList read)]
  | word read => some [.word (String.ofList read)]
  | operator read => some [.operator (String.ofList read)]
  | number stage read => if stage.isEnd then some [.number (String.ofList read)] else none
  | name _ | string _ | escape _ | bytes _ => none

/-- The first character after a token. -/
def start (c : Char) : Option (List Token × State) :=
  if c = ' ' then some ([], .between)
  else if c = '(' then some ([.opening], .between)
  else if c = ')' then some ([.closing], .between)
  else if c = ',' then some ([.comma], .between)
  else if c = '.' then some ([.dot], .between)
  else if c = '`' then some ([], .name [])
  else if c = '"' then some ([], .string [])
  else if c = '-' then some ([], .number .minus [c])
  else if c.isDigit then some ([], .number .whole [c])
  else if isWordStart c then some ([], .word [c])
  else if isOperatorPart c then some ([], .operator [c])
  else none

/-- A character that does not belong to the token before it. -/
def startAfter (state : State) (c : Char) : Option (List Token × State) := do
  let ended ← state.finish
  let (tokens, next) ← start c
  pure (ended ++ tokens, next)

def step : State → Char → Option (List Token × State)
  | .between, c => start c
  | .name read, c => if c = '`' then some ([], .nameQuote read) else some ([], .name (read ++ [c]))
  | .nameQuote read, c =>
    if c = '`' then some ([], .name (read ++ [c])) else startAfter (.nameQuote read) c
  | .string read, c =>
    if c = '"' then some ([], .stringQuote read)
    else if c = '\\' then some ([], .escape read)
    else some ([], .string (read ++ [c]))
  | .escape read, c => some ([], .string (read ++ unescaped c))
  | .stringQuote read, c =>
    if c = '"' then some ([], .string (read ++ [c])) else startAfter (.stringQuote read) c
  | .bytes read, c =>
    if c = '"' then some ([.bytes (String.ofList read)], .between)
    else if isHexDigit c then some ([], .bytes (read ++ [c]))
    else none
  | .word read, c =>
    if isWordPart c then some ([], .word (read ++ [c]))
    else if c = '"' then if read = ['X'] then some ([], .bytes []) else none
    else startAfter (.word read) c
  | .operator read, c =>
    if isOperatorPart c then some ([], .operator (read ++ [c])) else startAfter (.operator read) c
  | .number stage read, c =>
    match stage.next c with
    | some stage => some ([], .number stage (read ++ [c]))
    | none => if isWordPart c then none else startAfter (.number stage read) c

def scan : State → List Char → Option (List Token)
  | state, [] => state.finish
  | state, c :: rest => do
    let (tokens, next) ← step state c
    let more ← scan next rest
    pure (tokens ++ more)

def tokens (text : String) : Option (List Token) := scan .between text.toList

end JsonSelect.Sql
