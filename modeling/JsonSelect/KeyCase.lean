import JsonSelect.Json.Basic
import JsonSelect.Text.Case

/-! Keys of payloads in camel case and in snake case. -/
namespace JsonSelect

inductive KeyCase where
  | camel
  | snake
deriving DecidableEq

namespace KeyCase

def isSeparator (c : Char) : Bool := c = '-' || c = '_' || Text.isBlank c

/-- The text without its separators; `raised` says that one has just been dropped, so that the
next character is written in upper case. -/
def joined (raised : Bool) : List Char → List Char
  | [] => []
  | c :: rest =>
    if isSeparator c then joined true rest
    else (if raised then Text.upper c else [c]) ++ joined false rest

def lowerFirst : List Char → List Char
  | [] => []
  | c :: rest => Text.lower c ++ rest

def camelCased (key : List Char) : List Char := lowerFirst (joined false key)

/-- An underscore before every ASCII capital of what follows the first character. -/
def separated : List Char → List Char
  | [] => []
  | c :: rest => if c.isUpper then '_' :: c :: separated rest else c :: separated rest

def snakeCased (key : List Char) : List Char :=
  match key with
  | [] => []
  | first :: rest => Text.lowerText (first :: separated rest)

def apply (keyCase : KeyCase) (key : String) : String :=
  match keyCase with
  | camel => String.ofList (camelCased key.toList)
  | snake => String.ofList (snakeCased key.toList)

/-- The keys of an object and of the objects it holds, `depth` levels down. Of keys that become
equal, the first keeps its place and the last its value. -/
def renameKeys (keyCase : KeyCase) : Nat → Json → Json
  | depth + 1, .object fields =>
    .object (Fields.ofList (fields.map fun field =>
      (keyCase.apply field.1, keyCase.renameKeys depth field.2)))
  | _, value => value

/-- A text that is no part of a larger value is a key itself, at every depth. -/
def convert (keyCase : KeyCase) (depth : Nat) (value : Json) : Json :=
  match value with
  | .string key => .string (keyCase.apply key)
  | value => keyCase.renameKeys depth value

/-- The fields of one object with their new keys, and what they hold renamed on. -/
def renameFields (keyCase : KeyCase) (depth : Nat) (fields : Fields) : Fields :=
  Fields.ofList (fields.map fun field =>
    (keyCase.apply field.1, keyCase.renameKeys depth field.2))

def renameRows (keyCase : KeyCase) (depth : Nat) (rows : List Fields) : List Fields :=
  match depth with
  | 0 => rows
  | depth + 1 => rows.map (keyCase.renameFields depth)

/-- Each row is renamed like an object of its own. -/
def convertRows (keyCase : KeyCase) (depth : Nat) (rows : List Fields) : List Json :=
  (keyCase.renameRows depth rows).map .object

end KeyCase
end JsonSelect
