import PeopleFeed.Text.Integer

/-!
Numerals of decimal numbers: blanks around, one sign, digits with at most one point, and an
exponent; or else a word for infinity or for what is no number.
-/
namespace PeopleFeed.Text

/-- The words that stand for no finite number. -/
def nonfiniteWords : List String :=
  ["inf", "infinity", "nan"]

/-- Whether nothing is left but an exponent, if there is one. -/
def endsInExponent : List Char → Bool
  | [] => true
  | e :: rest =>
    (e == 'e' || e == 'E') &&
      match readDigits [] false (readSign rest).2 with
      | some (_, []) => true
      | _ => false

/-- Whether what stands behind the point ends a numeral. -/
def endsInFraction (cs : List Char) : Bool :=
  match readDigits [] false cs with
  | some (_, rest) => endsInExponent rest
  | none => false

/-- Whether characters write a decimal number without a sign. -/
def isUnsignedDecimal (cs : List Char) : Bool :=
  match readDigits [] false cs, cs with
  | some (_, '.' :: rest), _ => endsInFraction rest || endsInExponent rest
  | some (_, rest), _ => endsInExponent rest
  | none, '.' :: rest => endsInFraction rest
  | none, _ => false

/-- Whether a text writes a decimal number. -/
def isDecimalNumeral (text : String) : Bool :=
  let begun := text.toList.dropWhile isNumeralBlank
  let cs := (begun.reverse.dropWhile isNumeralBlank).reverse
  let unsigned := (readSign cs).2
  nonfiniteWords.contains (String.ofList (unsigned.map Char.toLower)) ||
    isUnsignedDecimal unsigned

end PeopleFeed.Text
