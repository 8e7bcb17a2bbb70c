import StaticSite.Decimal.Binary64

/-!
# The shortest decimal text of a binary number

The decimal text of a finite value has the fewest digits that read back as the value, and among
those the digits nearest to it. On the grid of decimals with `n` digits only the two neighbours of
the value can be the nearest, so for `n = 1, 2, …, 17` these two are compared with the interval of
numbers that round to the value, whose ends belong to it exactly when the significand is even.
-/

namespace StaticSite.Decimal

namespace Binary64

/-- Digits with the place of the decimal point: the number `0.digits * 10 ^ point`. -/
structure Digits where
  digits : List Char
  point : Int
deriving DecidableEq, Repr

/-- A positive number in quarters of a unit, with the ends of the interval around it. -/
structure Interval where
  low : Nat
  value : Nat
  high : Nat
  /-- The unit is `unitNum / unitDen`. -/
  unitNum : Nat
  unitDen : Nat
  closed : Bool

/-- The numbers that round to a positive finite value. Below a power of two the neighbour is only
half as far. -/
def interval (x : Binary64) : Interval :=
  let m := x.significand
  let q := x.exponent - 2
  { low := if x.fractionField = 0 ∧ 1 < x.exponentField then 4 * m - 1 else 4 * m - 2
    value := 4 * m
    high := 4 * m + 2
    unitNum := power 2 q
    unitDen := power 2 (-q)
    closed := m % 2 = 0 }

/-- The number of places before the decimal point: `10 ^ (places - 1) ≤ num / den < 10 ^ places`. -/
def placesOf (num den : Nat) : Int :=
  if den ≤ num then (Nat.toDigits 10 (num / den)).length
  else 1 - ((Nat.toDigits 10 (den / num)).length : Int)

/-- Whether `n * 10 ^ k` lies in the interval. -/
def Interval.holds (i : Interval) (n : Nat) (k : Int) : Bool :=
  let scale (quarters : Nat) : Nat := quarters * i.unitNum * power 10 (-k)
  let x := n * i.unitDen * power 10 k
  if i.closed then scale i.low ≤ x && x ≤ scale i.high
  else scale i.low < x && x < scale i.high

/-- The neighbour of the value on the grid of multiples of `10 ^ k` that lies in the interval, the
nearer one if both do, the upper one of a tie. -/
def Interval.onGrid? (i : Interval) (k : Int) : Option Nat :=
  let num := i.value * i.unitNum * power 10 (-k)
  let den := i.unitDen * power 10 k
  let below := num / den
  match i.holds below k, i.holds (below + 1) k with
  | true, true => some (if 2 * (num % den) < den then below else below + 1)
  | true, false => some below
  | false, true => some (below + 1)
  | false, false => none

/-- The first grid with a hit, beginning with `n` digits. -/
def searchDigits (i : Interval) (places : Int) : Nat → Nat → Nat × Int
  | 0, n => (i.value * i.unitNum / i.unitDen, places - n)
  | fuel + 1, n =>
    match i.onGrid? (places - n) with
    | some digits => (digits, places - n)
    | none => searchDigits i places fuel (n + 1)

/-- The shortest digits of a positive finite value. -/
def shortest (x : Binary64) : Digits :=
  let i := x.interval
  let (n, k) := searchDigits i (placesOf (i.value * i.unitNum) i.unitDen) 17 1
  let chars := Nat.toDigits 10 n
  { digits := (chars.reverse.dropWhile (· == '0')).reverse
    point := (chars.length : Int) + k }

/-! ### Texts -/

/-- Digits without an exponent, with at least one place after the point. -/
def Digits.positional (d : Digits) : List Char :=
  if d.point ≤ 0 then ['0', '.'] ++ List.replicate (-d.point).toNat '0' ++ d.digits
  else
    let places := d.point.toNat
    if d.digits.length ≤ places then
      d.digits ++ List.replicate (places - d.digits.length) '0' ++ ['.', '0']
    else
      d.digits.take places ++ ['.'] ++ d.digits.drop places

/-- Digits with an exponent, with one place before the point. -/
def Digits.scientific (d : Digits) : List Char :=
  let e := d.point - 1
  let power := (if e < 0 then ['-'] else []) ++ Nat.toDigits 10 e.natAbs
  d.digits.take 1 ++ (if d.digits.length ≤ 1 then [] else '.' :: d.digits.drop 1) ++ ['e'] ++ power

/-- A value that is no finite number, or zero, by its name. -/
def special? (x : Binary64) : Option (List Char) :=
  if x.isNaN then some ['N', 'a', 'N']
  else if x.isInfinite then some ['i', 'n', 'f']
  else if x.significand = 0 then some ['0', '.', '0']
  else none

/-- The text of a value with the given form for the digits; only a value that is no number has no
sign. -/
def textBy (form : Digits → List Char) (x : Binary64) : String :=
  let magnitude := x.special?.getD (form x.shortest)
  String.ofList (if x.isNegative && !x.isNaN then '-' :: magnitude else magnitude)

/-- The text of a value without an exponent. -/
def plainText (x : Binary64) : String :=
  x.textBy Digits.positional

/-- The text of a value, with an exponent below `0.0001` and from `10 ^ 16` on. -/
def text (x : Binary64) : String :=
  x.textBy fun d => if -4 < d.point ∧ d.point ≤ 16 then d.positional else d.scientific

end Binary64

end StaticSite.Decimal
