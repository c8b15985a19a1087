import PeopleFeed.Decimal.Double

/-!
The decimal text of a floating point number: the fewest digits that read back as the number and,
of those, the ones nearest to it, an even last digit deciding.
-/
namespace PeopleFeed.Decimal

/-- The decimal numeral `0.d₁d₂… × 10 ^ point`, its digits written as one number. -/
structure Numeral where
  digits : Nat
  count : Nat
  point : Int
  deriving DecidableEq, Repr

/-- How a number is laid out in text. -/
structure Layout where
  /-- The least exponent written positionally. -/
  leastPositional : Int
  /-- The least exponent no longer written positionally. -/
  leastScientific : Int
  /-- The fewest digits of a written exponent. -/
  exponentDigits : Nat

/-- The values that read back as a positive finite number: a multiple of `1 / den` between
`low` and `high`, the ends belonging to it when `closed`. -/
structure Interval where
  low : Nat
  value : Nat
  high : Nat
  den : Nat
  closed : Bool

namespace Interval

/-- The interval of a positive finite number, in quarters of its last place. Below a power of
two the neighbour is only half as far. -/
def ofDouble (x : Double) : Interval :=
  let m := x.significand
  let below := if m == Nat.pow 2 52 && 1 < x.exponentField then 1 else 2
  let up := x.scale - 1074
  { low := (4 * m - below) * Nat.pow 2 up
    value := 4 * m * Nat.pow 2 up
    high := (4 * m + 2) * Nat.pow 2 up
    den := 4 * Nat.pow 2 (1074 - x.scale)
    closed := m % 2 == 0 }

/-- Whether `num / den` lies in the interval. -/
def contains (i : Interval) (num den : Nat) : Bool :=
  let low := i.low * den
  let high := i.high * den
  let here := num * i.den
  if i.closed then low ≤ here && here ≤ high else low < here && here < high

end Interval

/-- Ten to the power, as a numerator and a denominator. -/
def powerOfTen (e : Int) : Nat × Nat :=
  if 0 ≤ e then (Nat.pow 10 e.toNat, 1) else (1, Nat.pow 10 (-e).toNat)

/-- The least `e` not below the first argument with `num / den < 10 ^ e`, if one of the next
`fuel` ones is it. -/
def decimalPoint (num den : Nat) : Nat → Int → Int
  | 0, e => e
  | fuel + 1, e =>
    let (n, d) := powerOfTen e
    if num * d < den * n then e else decimalPoint num den fuel (e + 1)

/-- The numeral with the least number of digits in the interval, from the given number on. Of
two the nearer one is taken, and of two equally near ones the even one. -/
def searchDigits (i : Interval) (point : Int) : Nat → Nat → Numeral
  | 0, count => ⟨0, count, point⟩
  | fuel + 1, count =>
    let (n, d) := powerOfTen (point - count)
    let below := i.value * d / (i.den * n)
    let above := below + 1
    let twice := 2 * i.value * d
    let middle := (below + above) * (i.den * n)
    let goesDown := twice < middle || (twice == middle && below % 2 == 0)
    match i.contains (below * n) d, i.contains (above * n) d with
    | true, true => ⟨if goesDown then below else above, count, point⟩
    | true, false => ⟨below, count, point⟩
    | false, true => ⟨above, count, point⟩
    | false, false => searchDigits i point fuel (count + 1)

/-- The shortest numeral of a positive finite number. -/
def shortest (x : Double) : Numeral :=
  let i := Interval.ofDouble x
  let guess : Int :=
    ((Nat.log2 i.value : Int) - (Nat.log2 i.den : Int) - 1) * 30103 / 100000 - 1
  let point := decimalPoint i.value i.den 5 guess
  searchDigits i point 17 1

/-- The digits of a numeral without the zeros at their end, and the exponent of the first. -/
def Numeral.normal (n : Numeral) : List Char × Int :=
  let all := Nat.toDigits 10 n.digits
  let kept := (all.reverse.dropWhile (· == '0')).reverse
  (kept, n.point + ((all.length : Int) - (n.count : Int)) - 1)

/-- A positional text of the digits, the first of which stands for `10 ^ exponent`. -/
def positional (digits : List Char) (exponent : Int) : List Char :=
  if exponent < 0 then
    '0' :: '.' :: List.replicate ((-exponent).toNat - 1) '0' ++ digits
  else
    let whole := exponent.toNat + 1
    let front := digits.take whole ++ List.replicate (whole - digits.length) '0'
    let back := digits.drop whole
    front ++ '.' :: (if back.isEmpty then ['0'] else back)

/-- A text of the digits with a written exponent. -/
def scientific (l : Layout) (digits : List Char) (exponent : Int) : List Char :=
  let back := digits.drop 1
  let shown := Nat.toDigits 10 exponent.natAbs
  digits.take 1 ++ (if back.isEmpty then [] else '.' :: back) ++
    'e' :: (if exponent < 0 then '-' else '+') ::
      (List.replicate (l.exponentDigits - shown.length) '0' ++ shown)

/-- Numbers from a ten-thousandth up to ten to the sixteenth are written positionally, and an
exponent has at least two digits. -/
def Layout.plain : Layout := ⟨-4, 16, 2⟩

/-- The shortest text of a number. -/
def Double.text (x : Double) : String :=
  if x.isNaN then "nan"
  else
    let sign := if x.isNegative then ['-'] else []
    if !x.isFinite then String.ofList (sign ++ "inf".toList)
    else if x.isZero then String.ofList (sign ++ "0.0".toList)
    else
      let (digits, exponent) := (shortest x).normal
      let l := Layout.plain
      String.ofList <| sign ++
        if l.leastPositional ≤ exponent && exponent < l.leastScientific then
          positional digits exponent
        else scientific l digits exponent

end PeopleFeed.Decimal
