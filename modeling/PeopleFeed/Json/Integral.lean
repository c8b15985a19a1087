import PeopleFeed.Json.Value
import PeopleFeed.Text.Integer

/-! Whole numbers out of JSON values: numbers are cut off toward zero, truth values count as one
and zero, and texts are read as numerals. -/
namespace PeopleFeed.Json

/-- Why a value does not give a whole number. -/
inductive IntegralError
  | wrongType
  | infinite
  | notANumber
  | badText (error : Text.IntegerError)
  deriving DecidableEq, Repr

def IntegralError.message : IntegralError → String
  | .wrongType => "a value of this type is not a number"
  | .infinite => "cannot convert float infinity to integer"
  | .notANumber => "cannot convert float NaN to integer"
  | .badText error => error.message

/-- The whole number that a value gives. -/
def Value.toInteger : Value → Except IntegralError Int
  | .int n => .ok n
  | .bool b => .ok (if b then 1 else 0)
  | .float x =>
    if x.isNaN then .error .notANumber
    else if !x.isFinite then .error .infinite
    else .ok x.truncate
  | .str s => (Text.readInteger s).mapError .badText
  | .null | .arr _ | .obj _ => .error .wrongType

end PeopleFeed.Json
