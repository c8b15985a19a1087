import PeopleFeed.Decimal.Shortest

/-! Floating point numbers rounded to a fixed number of decimal places, by their exact value. -/
namespace PeopleFeed.Decimal

/-- How many units of the last of `places` decimal places a finite number is, rounded. -/
def Double.units (x : Double) (places : Nat) : Nat :=
  let (num, den) := x.ratio
  roundDiv (num * Nat.pow 10 places) den

/-- The floating point number nearest to a finite one rounded to some decimal places. -/
def Double.roundTo (x : Double) (places : Nat) : Double :=
  Double.ofRatio x.isNegative (x.units places) (Nat.pow 10 places)

/-- The text of a finite number with a fixed number of decimal places. -/
def Double.fixed (x : Double) (places : Nat) : String :=
  let units := x.units places
  let shown := Nat.toDigits 10 units
  let digits := List.replicate (places + 1 - shown.length) '0' ++ shown
  let front := digits.take (digits.length - places)
  let back := digits.drop (digits.length - places)
  String.ofList <| (if x.isNegative then ['-'] else []) ++ front ++
    (if places = 0 then [] else '.' :: back)

end PeopleFeed.Decimal
