import JsonSelect.DateTime.Basic
import JsonSelect.Text.Blank

/-! Dates and times as texts give them. -/
namespace JsonSelect.DateTime

/-- What a text starts with, and the rest of it. -/
abbrev Reader (α : Type) := List Char → Option (α × List Char)

def readChar (c : Char) : Reader Unit
  | [] => none
  | d :: rest => if d = c then some ((), rest) else none

/-- Digits up to a width, at least `least` of them. -/
def readDigits (least most : Nat) : Reader Nat := fun text =>
  let run := (text.take most).takeWhile Char.isDigit
  if run.length < least then none
  else some (Nat.ofDigitChars 10 run 0, text.drop run.length)

/-- A number that blanks may precede. -/
def readNumber (most : Nat) : Reader Nat := fun text => readDigits 1 most (Text.trimStart text)

/-- A year with a sign has as many digits as it needs, one without has four at most. -/
def readYear : Reader Int := fun text =>
  let signed (sign : Int) (rest : List Char) := do
    let (value, rest) ← readDigits 1 rest.length rest
    some (sign * value, rest)
  match Text.trimStart text with
  | '-' :: rest => signed (-1) rest
  | '+' :: rest => signed 1 rest
  | rest => do
    let (value, rest) ← readDigits 1 4 rest
    some ((value : Int), rest)

/-- A point with at least one digit after it, or nothing. -/
def readFraction : Reader Unit
  | '.' :: rest => do
    let (_, rest) ← readDigits 1 rest.length rest
    some ((), rest)
  | rest => some ((), rest)

/-- The second 60 is a leap second; it can follow any minute. -/
def ofParts? (date : Date) (hour minute second : Nat) : Option DateTime :=
  if date.isValid ∧ hour ≤ 23 ∧ minute ≤ 59 ∧ second ≤ 60 then
    some (if second = 60 then ⟨date, hour, minute, 59, nanoseconds⟩
      else ⟨date, hour, minute, second, 0⟩)
  else none

def readSign : Reader Unit
  | c :: rest => if c = '+' ∨ c = '-' ∨ c = '\u2212' then some ((), rest) else none
  | [] => none

/-- The letter Z, or hours and minutes that make less than a day. -/
def readOffset : Reader Unit := fun text =>
  match text with
  | 'Z' :: rest => some ((), rest)
  | 'z' :: rest => some ((), rest)
  | text => do
    let (_, text) ← readSign text
    let (hours, text) ← readDigits 2 2 text
    let (_, text) ← readChar ':' text
    let (minutes, text) ← readDigits 2 2 text
    if hours ≤ 23 ∧ minutes ≤ 59 then some ((), text) else none

def readSeparator : Reader Unit
  | c :: rest => if c = 'T' ∨ c = 't' ∨ c = ' ' then some ((), rest) else none
  | [] => none

/-- A time with its offset from universal time, every part in its full width. The clock is kept as
it is and the offset dropped. -/
def ofZoned? (text : List Char) : Option DateTime := do
  let (year, text) ← readDigits 4 4 text
  let (_, text) ← readChar '-' text
  let (month, text) ← readDigits 2 2 text
  let (_, text) ← readChar '-' text
  let (day, text) ← readDigits 2 2 text
  let (_, text) ← readSeparator text
  let (hour, text) ← readDigits 2 2 text
  let (_, text) ← readChar ':' text
  let (minute, text) ← readDigits 2 2 text
  let (_, text) ← readChar ':' text
  let (second, text) ← readDigits 2 2 text
  let (_, text) ← readFraction text
  let (_, text) ← readOffset text
  if text = [] then ofParts? ⟨year, month, day⟩ hour minute second else none

def readDate : Reader Date := fun text => do
  let (year, text) ← readYear text
  let (_, text) ← readChar '-' text
  let (month, text) ← readNumber 2 text
  let (_, text) ← readChar '-' text
  let (day, text) ← readNumber 2 text
  some (⟨year, month, day⟩, text)

/-- The parts of a time of day, with a fraction that is passed over. -/
def readClock : Reader (Nat × Nat × Nat) := fun text => do
  let (hour, text) ← readNumber 2 text
  let (_, text) ← readChar ':' text
  let (minute, text) ← readNumber 2 text
  let (_, text) ← readChar ':' text
  let (second, text) ← readNumber 2 text
  let (_, text) ← readFraction text
  some ((hour, minute, second), text)

/-- Any blanks, also none. -/
def readBlanks : Reader Unit := fun text => some ((), Text.trimStart text)

/-- A date and a time of day with `between` between them. -/
def ofLocal? (between : Reader Unit) (text : List Char) : Option DateTime := do
  let (date, text) ← readDate text
  let (_, text) ← between text
  let ((hour, minute, second), text) ← readClock text
  if text = [] then ofParts? date hour minute second else none

/-- A date alone is its midnight. -/
def ofDate? (text : List Char) : Option DateTime := do
  let (date, text) ← readDate text
  if text = [] then ofParts? date 0 0 0 else none

/-- The first form that fits. Blanks around the text do not count. -/
def ofText? (text : List Char) : Option DateTime :=
  let text := Text.trim text
  ofZoned? text <|> ofLocal? readBlanks text <|> ofLocal? (readChar 'T') text <|> ofDate? text

/-- The usual text for the same time. -/
def format (text : String) : Except Error String :=
  match ofText? text.toList with
  | some t => .ok t.text
  | none => .error (.unrecognisedDateTime text)

end JsonSelect.DateTime
