/-!
# Binary floating point

The numbers of the 64-bit binary format, by their bits. Every word of 64 bits is a value: a sign,
eleven bits of exponent and 52 bits of fraction. A decimal number is turned into the nearest value,
ties going to the even fraction, in exact arithmetic on natural numbers.
-/

namespace StaticSite.Decimal

/-- A value of the 64-bit binary format, by its bits. -/
structure Binary64 where
  bits : UInt64
deriving DecidableEq, Repr

namespace Binary64

/-! ### Fields -/

/-- The bit of the sign, `2 ^ 63`. -/
def signBit : Nat := 0x8000000000000000

/-- The number of fractions, `2 ^ 52`. -/
def fractionCount : Nat := 0x10000000000000

/-- The exponent field of infinities and of what is not a number: eleven bits, all set. -/
def topExponent : Nat := 2047

/-- Whether the sign bit is set. -/
def isNegative (x : Binary64) : Bool := signBit ≤ x.bits.toNat

/-- The exponent field. -/
def exponentField (x : Binary64) : Nat := x.bits.toNat % signBit / fractionCount

/-- The fraction field. -/
def fractionField (x : Binary64) : Nat := x.bits.toNat % fractionCount

/-- Whether the value is one of the two infinities. -/
def isInfinite (x : Binary64) : Bool := x.exponentField == topExponent && x.fractionField == 0

/-- Whether the value is not a number. -/
def isNaN (x : Binary64) : Bool := x.exponentField == topExponent && x.fractionField != 0

/-- The significand of a finite value, which is that many units of `2 ^ x.exponent`. -/
def significand (x : Binary64) : Nat :=
  if x.exponentField = 0 then x.fractionField else fractionCount + x.fractionField

/-- The exponent of the unit in which the significand counts. -/
def exponent (x : Binary64) : Int :=
  if x.exponentField = 0 then -1074 else (x.exponentField : Int) - 1075

/-- The value with the given sign and the given bits below it. -/
def ofMagnitude (negative : Bool) (magnitude : Nat) : Binary64 :=
  ⟨UInt64.ofNat ((if negative then signBit else 0) + magnitude)⟩

/-- The bits of infinity without its sign. -/
def infinityBits : Nat := topExponent * fractionCount

/-- Infinity with a sign. -/
def infinity (negative : Bool) : Binary64 := ofMagnitude negative infinityBits

/-- A value that is not a number. -/
def nan : Binary64 := ofMagnitude false (infinityBits + fractionCount / 2)

/-! ### Rounding -/

/-- A power whose exponent is cut off at zero, so that `base ^ k` is
`power base k / power base (-k)` for every integer `k`. -/
def power (base : Nat) (k : Int) : Nat := base.pow k.toNat

/-- The quotient rounded to the nearest natural number, a tie going to the even one. -/
def divideToEven (num den : Nat) : Nat :=
  let q := num / den
  let twice := 2 * (num % den)
  if twice < den then q
  else if den < twice then q + 1
  else if q % 2 = 0 then q else q + 1

/-- The bits of the nearest value to a positive fraction, without the sign. -/
def magnitudeOfRatio (num den : Nat) : Nat :=
  let k : Int := (Nat.log2 num : Int) - Nat.log2 den
  let reaches : Bool := den * power 2 k ≤ num * power 2 (-k)
  let q : Int := max ((if reaches then k else k - 1) - 52) (-1074)
  let m := divideToEven (num * power 2 (-q)) (den * power 2 q)
  if m < fractionCount then m
  else min ((q + 1075).toNat * fractionCount + (m - fractionCount)) infinityBits

/-- The nearest value to `digits * 10 ^ exponent` with a sign. -/
def ofDecimal (negative : Bool) (digits : Nat) (exponent : Int) : Binary64 :=
  let places : Int := (Nat.toDigits 10 digits).length + exponent
  let magnitude :=
    if digits = 0 ∨ places < -400 then 0
    else if 400 < places then infinityBits
    else magnitudeOfRatio (digits * power 10 exponent) (power 10 (-exponent))
  ofMagnitude negative magnitude

end Binary64

end StaticSite.Decimal
