import JsonSelect.Json.Basic

/-! Values of conditions, and the way they are written into a statement. -/
namespace JsonSelect

inductive Literal where
  | null
  | bool (value : Bool)
  | number (value : Number)
  | text (value : String)
  | bytes (value : List UInt8)
deriving DecidableEq

namespace Literal

/-- Lists and objects are no values of a condition. -/
def ofJson? : Json → Option Literal
  | .null => some null
  | .bool value => some (bool value)
  | .number value => some (number value)
  | .string value => some (text value)
  | .array _ => none
  | .object _ => none

def ofInt (value : Int) : Literal := number (.integer value)

/-- Infinite values and those that are no number become null. -/
def ofDouble (value : Double) : Literal :=
  if value.isFinite then number (.double value) else null

def isNull : Literal → Bool
  | null => true
  | _ => false

/-- Whether the value is written without any quotes, null apart. -/
def isBare : Literal → Bool
  | bool _ | number _ => true
  | _ => false

/-- The characters that a quoted text cannot hold as they are. -/
def escapedChar (c : Char) : List Char :=
  match c with
  | '\x00' => ['\\', '0']
  | '\n' => ['\\', 'n']
  | '\r' => ['\\', 'r']
  | '\x08' => ['\\', 'b']
  | '\t' => ['\\', 't']
  | '\x1a' => ['\\', 'Z']
  | '\\' => ['\\', '\\']
  | '\x27' => ['\\', '\x27']
  | '"' => ['\\', '"']
  | c => [c]

def escapedText (text : List Char) : List Char := text.flatMap escapedChar

def hexPair (byte : UInt8) : List Char :=
  [(byte.toNat / 16).digitChar, (byte.toNat % 16).digitChar]

/-- The value without the quotes around a text. -/
def escaped : Literal → String
  | null => "NULL"
  | bool true => "true"
  | bool false => "false"
  | number value => value.text
  | text value => String.ofList (escapedText value.toList)
  | bytes value => String.ofList ('X' :: '"' :: value.flatMap hexPair ++ ['"'])

/-- The value as it stands in a statement. -/
def quoted : Literal → String
  | text value => String.ofList ('"' :: escapedText value.toList ++ ['"'])
  | other => other.escaped

end Literal
end JsonSelect
