import JsonSelect.Json.Basic

/-! The compact text of a JSON value. -/
namespace JsonSelect.Json

def hexDigit (n : Nat) : Char := (n % 16).digitChar

/-- Quotes, backslashes and controls are escaped, the usual controls by a letter. -/
def escaped (c : Char) : List Char :=
  match c with
  | '"' => ['\\', '"']
  | '\\' => ['\\', '\\']
  | '\x08' => ['\\', 'b']
  | '\x0c' => ['\\', 'f']
  | '\n' => ['\\', 'n']
  | '\r' => ['\\', 'r']
  | '\t' => ['\\', 't']
  | c =>
    if c.toNat < 0x20 then ['\\', 'u', '0', '0', hexDigit (c.toNat / 16), hexDigit c.toNat]
    else [c]

def stringText (value : String) : String :=
  String.ofList ('"' :: value.toList.flatMap escaped ++ ['"'])

mutual

def text : Json → String
  | null => "null"
  | bool true => "true"
  | bool false => "false"
  | number value => value.text
  | string value => stringText value
  | array items => "[" ++ ",".intercalate (itemTexts items) ++ "]"
  | object fields => "\x7b" ++ ",".intercalate (fieldTexts fields) ++ "\x7d"

def itemTexts : List Json → List String
  | [] => []
  | item :: rest => text item :: itemTexts rest

def fieldTexts : List (String × Json) → List String
  | [] => []
  | (key, value) :: rest => (stringText key ++ ":" ++ text value) :: fieldTexts rest

end

end JsonSelect.Json
