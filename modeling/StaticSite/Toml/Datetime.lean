/-!
# Dates and times

The four kinds of TOML date/times and their text. The separator between date and time is `T`, a
fraction of a second is written without zeros at its end, and an offset is `Z` or a signed number of
hours and minutes.
-/

namespace StaticSite.Toml

/-- A day of the calendar. -/
structure Date where
  year : Nat
  month : Nat
  day : Nat
deriving DecidableEq, Repr

/-- A time of day. -/
structure Time where
  hour : Nat
  minute : Nat
  second : Nat
  nanosecond : Nat := 0
deriving DecidableEq, Repr

/-- A distance from universal time. -/
inductive Offset
  | utc
  | minutes (n : Int)
deriving DecidableEq, Repr

/-- A date, a time, or both, with an offset or local. -/
inductive Datetime
  | date (d : Date)
  | time (t : Time)
  | dateTime (d : Date) (t : Time) (offset? : Option Offset)
deriving DecidableEq, Repr

/-- The number of days of a month. -/
def daysInMonth (year month : Nat) : Nat :=
  if month = 2 then
    if year % 4 = 0 ∧ (year % 100 ≠ 0 ∨ year % 400 = 0) then 29 else 28
  else if month = 4 ∨ month = 6 ∨ month = 9 ∨ month = 11 then 30
  else 31

/-- Whether the calendar has the day. -/
def Date.isValid (d : Date) : Bool :=
  1 ≤ d.month && d.month ≤ 12 && 1 ≤ d.day && d.day ≤ daysInMonth d.year d.month

/-- Whether the clock shows the time; a leap second counts. -/
def Time.isValid (t : Time) : Bool :=
  t.hour ≤ 23 && t.minute ≤ 59 && t.second ≤ 60

/-- A number with at least `width` digits. -/
def padded (width n : Nat) : List Char :=
  let digits := Nat.toDigits 10 n
  List.replicate (width - digits.length) '0' ++ digits

/-- The text of a date. -/
def Date.chars (d : Date) : List Char :=
  padded 4 d.year ++ ['-'] ++ padded 2 d.month ++ ['-'] ++ padded 2 d.day

/-- The text of a time. -/
def Time.chars (t : Time) : List Char :=
  padded 2 t.hour ++ [':'] ++ padded 2 t.minute ++ [':'] ++ padded 2 t.second ++
    if t.nanosecond = 0 then []
    else '.' :: ((padded 9 t.nanosecond).reverse.dropWhile (· == '0')).reverse

/-- The text of an offset. -/
def Offset.chars : Offset → List Char
  | utc => ['Z']
  | minutes n =>
    (if n < 0 then '-' else '+') :: padded 2 (n.natAbs / 60) ++ [':'] ++ padded 2 (n.natAbs % 60)

/-- The text of a date/time. -/
def Datetime.text : Datetime → String
  | date d => String.ofList d.chars
  | time t => String.ofList t.chars
  | dateTime d t offset? =>
    String.ofList (d.chars ++ ['T'] ++ t.chars ++ (offset?.map Offset.chars).getD [])

end StaticSite.Toml
