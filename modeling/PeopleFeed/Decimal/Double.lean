/-!
Binary floating point numbers of 64 bits, as words. Every operation goes through the exact value
of a number, a ratio of naturals, and rounds once, ties going to the even neighbour.
-/
namespace PeopleFeed.Decimal

/-- A floating point number of 64 bits: a sign bit, 11 exponent bits and 52 bits of fraction. -/
structure Double where
  bits : UInt64
  deriving DecidableEq, Repr, Inhabited

/-- The quotient rounded to a whole number, ties going to the even one. -/
def roundDiv (num den : Nat) : Nat :=
  let q := num / den
  let r := num % den
  if den < 2 * r || (den == 2 * r && q % 2 == 1) then q + 1 else q

namespace Double

def signBit (negative : Bool) : Nat :=
  if negative then Nat.pow 2 63 else 0

def infinity (negative : Bool) : Double :=
  ⟨UInt64.ofNat (signBit negative + 0x7FF * Nat.pow 2 52)⟩

/-- The number that is none: no comparison with it holds. -/
def notANumber : Double :=
  ⟨UInt64.ofNat (0x7FF * Nat.pow 2 52 + Nat.pow 2 51)⟩

def zero (negative : Bool) : Double :=
  ⟨UInt64.ofNat (signBit negative)⟩

def isNegative (x : Double) : Bool :=
  Nat.pow 2 63 ≤ x.bits.toNat

def exponentField (x : Double) : Nat :=
  x.bits.toNat / Nat.pow 2 52 % Nat.pow 2 11

def fractionField (x : Double) : Nat :=
  x.bits.toNat % Nat.pow 2 52

def isFinite (x : Double) : Bool :=
  x.exponentField != 0x7FF

def isNaN (x : Double) : Bool :=
  !x.isFinite && x.fractionField != 0

def isZero (x : Double) : Bool :=
  x.exponentField == 0 && x.fractionField == 0

/-- The whole significand of a finite number. -/
def significand (x : Double) : Nat :=
  if x.exponentField = 0 then x.fractionField else x.fractionField + Nat.pow 2 52

/-- The power of two, raised by 1074, that the significand counts. -/
def scale (x : Double) : Nat :=
  x.exponentField - 1

/-- The numerator and denominator of the absolute value of a finite number. -/
def ratio (x : Double) : Nat × Nat :=
  if x.scale < 1074 then (x.significand, Nat.pow 2 (1074 - x.scale))
  else (x.significand * Nat.pow 2 (x.scale - 1074), 1)

/-- The least scale at which the ratio has at most 53 bits before the point. -/
def scaleOf (num den : Nat) : Nat :=
  let guess := (1074 - 52 + Nat.log2 num) - Nat.log2 den
  let large (s : Nat) : Bool :=
    if s < 1074 then den * Nat.pow 2 53 ≤ num * Nat.pow 2 (1074 - s)
    else den * Nat.pow 2 (s - 1074) * Nat.pow 2 53 ≤ num
  let low := guess - 1
  if large low then (if large (low + 1) then low + 2 else low + 1) else low

/-- The number nearest to a ratio, ties going to the even significand; what is too large becomes
infinite. -/
def ofRatio (negative : Bool) (num den : Nat) : Double :=
  if num = 0 then zero negative
  else
    let s := scaleOf num den
    let m :=
      if s < 1074 then roundDiv (num * Nat.pow 2 (1074 - s)) den
      else roundDiv num (den * Nat.pow 2 (s - 1074))
    let word := s * Nat.pow 2 52 + m
    if 0x7FF * Nat.pow 2 52 ≤ word then infinity negative
    else ⟨UInt64.ofNat (signBit negative + word)⟩

/-- The number nearest to `digits` times ten to the `exponent`. Beyond the range of the format
the powers are not computed. -/
def ofDecimal (negative : Bool) (digits : Nat) (exponent : Int) : Double :=
  if digits = 0 then zero negative
  else
    let magnitude : Int := Nat.log2 digits * 30103 / 100000 + exponent
    if magnitude < -330 then zero negative
    else if 320 < magnitude then infinity negative
    else if 0 ≤ exponent then ofRatio negative (digits * Nat.pow 10 exponent.toNat) 1
    else ofRatio negative digits (Nat.pow 10 (-exponent).toNat)

/-- The whole number nearest to a finite number on the side of zero. -/
def truncate (x : Double) : Int :=
  let (num, den) := x.ratio
  let n : Int := ↑(num / den)
  if x.isNegative then -n else n

/-- The product with a natural number. -/
def scaleBy (x : Double) (n : Nat) : Double :=
  let (num, den) := x.ratio
  ofRatio x.isNegative (num * n) den

end Double

end PeopleFeed.Decimal
