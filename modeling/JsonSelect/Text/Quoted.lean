import JsonSelect.Text.Blank
import JsonSelect.Text.HiddenTable

/-! A text as messages show it: in double quotes, with nothing in it that a reader could miss. -/
namespace JsonSelect.Text

/-- Quotes and backslashes are marked, and hidden characters are given by code point. -/
def shown (c : Char) : List Char :=
  match c with
  | '\x00' => ['\\', '0']
  | '\t' => ['\\', 't']
  | '\r' => ['\\', 'r']
  | '\n' => ['\\', 'n']
  | '"' => ['\\', '"']
  | '\\' => ['\\', '\\']
  | c =>
    if inRanges hiddenRanges c then ['\\', 'u', '\x7b'] ++ Nat.toDigits 16 c.toNat ++ ['\x7d']
    else [c]

def quoted (text : String) : String :=
  String.ofList ('"' :: text.toList.flatMap shown ++ ['"'])

end JsonSelect.Text
