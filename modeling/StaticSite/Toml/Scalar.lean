import StaticSite.Toml.Scan
import StaticSite.Toml.Value

/-!
# Numbers, dates and truth values

Integers fit 64 bits. A float that is too large is refused unless it is negative: that one becomes
negative infinity. A date has to be in the calendar and a time on the clock.
-/

namespace StaticSite.Toml

/-- Digits of a base with single underscores between them. -/
def readDigits (isDigit : Char → Bool) : List Char → Option (List Char × List Char)
  | [] => none
  | c :: rest =>
    if isDigit c then
      match rest with
      | '_' :: next =>
        (readDigits isDigit next).map fun r => (c :: r.1, r.2)
      | rest =>
        match rest with
        | d :: _ =>
          if isDigit d then (readDigits isDigit rest).map fun r => (c :: r.1, r.2)
          else some ([c], rest)
        | [] => some ([c], [])
    else none

/-- A sign at the front, and whether it is a minus. -/
def readSign : List Char → Bool × List Char
  | '+' :: rest => (false, rest)
  | '-' :: rest => (true, rest)
  | s => (false, s)

/-- A decimal number without a sign: zero alone, or digits that do not begin with zero. -/
def readWhole : List Char → Option (List Char × List Char)
  | '0' :: rest => some (['0'], rest)
  | s => readDigits Char.isDigit s

/-- The number that decimal digits stand for. -/
def decimalNumber (digits : List Char) : Nat := Nat.ofDigitChars 10 digits 0

/-- An integer, unless it needs more than 64 bits. -/
def integer? (n : Int) : Option Value :=
  if -0x8000000000000000 ≤ n ∧ n < 0x8000000000000000 then some (.integer n) else none

/-- An integer in a base other than ten, after the letter of the base. -/
def readInBase (base : Nat) (isDigit : Char → Bool) (s : List Char) :
    Option (Value × List Char) := do
  let (digits, rest) ← readDigits isDigit s
  let n := digits.foldl (fun n c => n * base + ((Text.hexDigit? c).getD 0)) 0
  return (← integer? n, rest)

/-- An integer. -/
def readInteger (s : List Char) : Option (Value × List Char) :=
  match s with
  | '0' :: 'x' :: rest => readInBase 16 (fun c => (Text.hexDigit? c).isSome) rest
  | '0' :: 'o' :: rest => readInBase 8 (fun c => '0' ≤ c && c ≤ '7') rest
  | '0' :: 'b' :: rest => readInBase 2 (fun c => c == '0' || c == '1') rest
  | s => do
    let (negative, rest) := readSign s
    let (digits, rest) ← readWhole rest
    let n : Int := decimalNumber digits
    return (← integer? (if negative then -n else n), rest)

/-- The exponent of a float after its letter. -/
def readExponent (s : List Char) : Option (Int × List Char) := do
  let (negative, rest) := readSign s
  let (digits, rest) ← readDigits Char.isDigit rest
  let n : Int := decimalNumber digits
  return (if negative then -n else n, rest)

/-- The exponent that a float may have. -/
def readOptionalExponent (s : List Char) : Option (Int × List Char) :=
  match s with
  | 'e' :: rest => readExponent rest
  | 'E' :: rest => readExponent rest
  | s => some (0, s)

/-- A float in digits: with a fraction, an exponent or both. -/
def readFloat (s : List Char) : Option (Value × List Char) := do
  let (negative, rest) := readSign s
  let (whole, rest) ← readWhole rest
  let (fraction, rest) ← match rest with
    | '.' :: rest => readDigits Char.isDigit rest
    | 'e' :: rest => some ([], 'e' :: rest)
    | 'E' :: rest => some ([], 'E' :: rest)
    | _ => none
  let (exponent, rest) ← readOptionalExponent rest
  let x := Decimal.Binary64.ofDecimal negative (decimalNumber (whole ++ fraction))
    (exponent - fraction.length)
  if x = .infinity false then none else return (.float x, rest)

/-- The floats that are written as words. -/
def readFloatWord (s : List Char) : Option (Value × List Char) :=
  let (negative, rest) := readSign s
  match rest with
  | 'i' :: 'n' :: 'f' :: rest => some (.float (.infinity negative), rest)
  | 'n' :: 'a' :: 'n' :: rest => some (.float .nan, rest)
  | _ => none

/-! ### Dates and times -/

/-- A number of exactly `width` digits. -/
def readFixed (width : Nat) (s : List Char) : Option (Nat × List Char) :=
  let digits := s.take width
  if digits.length = width ∧ digits.all Char.isDigit then
    some (decimalNumber digits, s.drop width)
  else
    none

/-- The rest after a character that has to be there. -/
def expect (c : Char) : List Char → Option (List Char)
  | d :: rest => if c = d then some rest else none
  | [] => none

/-- A date. -/
def readDate (s : List Char) : Option (Date × List Char) := do
  let (year, s) ← readFixed 4 s
  let (month, s) ← readFixed 2 (← expect '-' s)
  let (day, s) ← readFixed 2 (← expect '-' s)
  let d : Date := { year, month, day }
  if d.isValid then return (d, s) else none

/-- The nanoseconds of a fraction of a second: nine digits, where the ones that are missing are
zeros and the ones past the ninth are cut off. -/
def nanoseconds (digits : List Char) : Nat :=
  decimalNumber ((digits ++ List.replicate 9 '0').take 9)

/-- A time of day. -/
def readTime (s : List Char) : Option (Time × List Char) := do
  let (hour, s) ← readFixed 2 s
  let (minute, s) ← readFixed 2 (← expect ':' s)
  let (second, s) ← readFixed 2 (← expect ':' s)
  let (nanosecond, s) := match s with
    | '.' :: rest =>
      let digits := rest.takeWhile Char.isDigit
      if digits = [] then (0, s) else (nanoseconds digits, rest.dropWhile Char.isDigit)
    | s => (0, s)
  let t : Time := { hour, minute, second, nanosecond }
  if t.isValid then return (t, s) else none

/-- An offset with a sign. -/
def readSignedOffset (negative : Bool) (s : List Char) : Option (Offset × List Char) := do
  let (hours, s) ← readFixed 2 s
  let (minutes, s) ← readFixed 2 (← expect ':' s)
  if hours ≤ 23 ∧ minutes ≤ 59 then
    let n : Int := hours * 60 + minutes
    return (.minutes (if negative then -n else n), s)
  else
    none

/-- The offset that may follow a date and a time. -/
def readOffset (s : List Char) : Option (Option Offset × List Char) :=
  match s with
  | 'Z' :: rest => some (some .utc, rest)
  | 'z' :: rest => some (some .utc, rest)
  | '+' :: rest => (readSignedOffset false rest).map fun r => (some r.1, r.2)
  | '-' :: rest => (readSignedOffset true rest).map fun r => (some r.1, r.2)
  | s => some (none, s)

/-- The time after a date, if there is one. -/
def readTimeAfterDate (s : List Char) : Option (Time × List Char) :=
  match s with
  | 'T' :: rest => readTime rest
  | 't' :: rest => readTime rest
  | ' ' :: rest => readTime rest
  | _ => none

/-- A date/time of any kind. -/
def readDatetime (s : List Char) : Option (Value × List Char) :=
  match readDate s with
  | some (d, rest) =>
    match readTimeAfterDate rest with
    | some (t, rest) =>
      (readOffset rest).map fun r => (.datetime (.dateTime d t r.1), r.2)
    | none => some (.datetime (.date d), rest)
  | none => (readTime s).map fun r => (.datetime (.time r.1), r.2)

/-! ### All scalars -/

/-- A truth value. -/
def readBoolean (s : List Char) : Option (Value × List Char) :=
  match s with
  | 't' :: 'r' :: 'u' :: 'e' :: rest => some (.boolean true, rest)
  | 'f' :: 'a' :: 'l' :: 's' :: 'e' :: rest => some (.boolean false, rest)
  | _ => none

/-- A value without values inside it. -/
def readScalar (s : List Char) : Option (Value × List Char) :=
  match s with
  | '"' :: _ => (readString s).map fun r => (.string (String.ofList r.1), r.2)
  | '\'' :: _ => (readString s).map fun r => (.string (String.ofList r.1), r.2)
  | _ => readBoolean s <|> readFloatWord s <|> readDatetime s <|> readFloat s <|> readInteger s

end StaticSite.Toml
