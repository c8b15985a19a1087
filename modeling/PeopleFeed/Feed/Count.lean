import PeopleFeed.Json.Literal

/-! Numbers of items as callers give them: whole numbers, where a truth value counts as one or
zero and is shown as it was given. -/
namespace PeopleFeed.Feed

/-- A number of items. -/
inductive Count
  | number (n : Int)
  | flag (b : Bool)
  deriving DecidableEq, Repr, Inhabited

namespace Count

/-- The number that counts. -/
def toInt : Count → Int
  | number n => n
  | flag b => if b then 1 else 0

/-- The number of items, none if it is negative. -/
def toNat (c : Count) : Nat :=
  c.toInt.toNat

/-- The value as it was given. -/
def toValue : Count → Json.Value
  | number n => .int n
  | flag b => .bool b

/-- The count that a value is, if it is one. -/
def ofValue? : Json.Value → Option Count
  | .int n => some (number n)
  | .bool b => some (flag b)
  | _ => none

/-- The text of the count as it was given. -/
def text (c : Count) : String :=
  c.toValue.literal

theorem ofValue?_toValue (c : Count) : ofValue? c.toValue = some c := by
  cases c <;> rfl

end Count

end PeopleFeed.Feed
