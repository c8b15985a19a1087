import PeopleFeed.Text.Standins

/-! What a reader and a writer of JSON go by. -/
namespace PeopleFeed.Json

/-- The most digits of a whole number, how many brackets may be open inside of each other, and the
characters that stand for lone surrogates. -/
structure Codec where
  digits : Nat
  room : Nat
  standins : Text.Standins

/-- What a nested value starts with. -/
inductive Bracket
  | array
  | object
  deriving DecidableEq, Repr

def Bracket.name : Bracket → String
  | .array => "array"
  | .object => "object"

end PeopleFeed.Json
