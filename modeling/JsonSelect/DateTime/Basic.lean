import JsonSelect.Error

/-! Dates and times of day, and their text. -/
namespace JsonSelect

/-- A day of the proleptic Gregorian calendar. -/
structure Date where
  year : Int
  month : Nat
  day : Nat
deriving DecidableEq

namespace Date

def isLeap (year : Int) : Bool := year % 4 = 0 ∧ (year % 100 ≠ 0 ∨ year % 400 = 0)

def monthLength (year : Int) (month : Nat) : Nat :=
  if month = 2 then if isLeap year then 29 else 28
  else if month = 4 ∨ month = 6 ∨ month = 9 ∨ month = 11 then 30
  else 31

def firstYear : Int := -262143

def lastYear : Int := 262142

def isValid (date : Date) : Bool :=
  firstYear ≤ date.year ∧ date.year ≤ lastYear ∧ 1 ≤ date.month ∧ date.month ≤ 12 ∧
    1 ≤ date.day ∧ date.day ≤ monthLength date.year date.month

def next (date : Date) : Date :=
  if date.day < monthLength date.year date.month then { date with day := date.day + 1 }
  else if date.month < 12 then { date with month := date.month + 1, day := 1 }
  else ⟨date.year + 1, 1, 1⟩

def previous (date : Date) : Date :=
  if 1 < date.day then { date with day := date.day - 1 }
  else if 1 < date.month then
    ⟨date.year, date.month - 1, monthLength date.year (date.month - 1)⟩
  else ⟨date.year - 1, 12, 31⟩

end Date

/-- The nanoseconds of a second. -/
def nanoseconds : Nat := 1000000000

/-- A date and the time shown by a clock. A leap second is the second before it, with the
nanoseconds of a whole second or more. -/
structure DateTime where
  date : Date
  hour : Nat := 0
  minute : Nat := 0
  second : Nat := 0
  nanosecond : Nat := 0
deriving DecidableEq

namespace DateTime

/-- The digits of a number, with zeros before them up to a width. -/
def padded (width value : Nat) : List Char :=
  let digits := Nat.toDigits 10 value
  List.replicate (width - digits.length) '0' ++ digits

/-- Years of four digits have no sign, all others do. -/
def yearText (year : Int) : List Char :=
  if 0 ≤ year ∧ year ≤ 9999 then padded 4 year.toNat
  else (if year < 0 then '-' else '+') :: padded 4 year.natAbs

/-- Fractions of a second are not shown. -/
def text (t : DateTime) : String :=
  String.ofList (yearText t.date.year ++ ['-'] ++ padded 2 t.date.month ++ ['-'] ++
    padded 2 t.date.day ++ [' '] ++ padded 2 t.hour ++ [':'] ++ padded 2 t.minute ++ [':'] ++
    padded 2 (t.second + t.nanosecond / nanoseconds))

/-- The clock `seconds` further, by less than a day. -/
def shift (t : DateTime) (seconds : Int) : DateTime :=
  let total := ((t.hour * 60 + t.minute) * 60 + t.second : Nat) + seconds
  let ofDay := (total % 86400).toNat
  let date :=
    if total < 0 then t.date.previous else if 86400 ≤ total then t.date.next else t.date
  { date, hour := ofDay / 3600, minute := ofDay / 60 % 60, second := ofDay % 60,
    nanosecond := t.nanosecond }

end DateTime
end JsonSelect
