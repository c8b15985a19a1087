/-! Runs of characters whose other case is found at one distance. -/
namespace PeopleFeed.Text

/-- Every `step`-th character from `first` to `last` moves by `distance`. -/
structure CaseRun where
  first : Nat
  last : Nat
  step : Nat
  distance : Int

namespace CaseRun

/-- Whether the run moves the code point. -/
def covers (r : CaseRun) (n : Nat) : Bool :=
  r.first ≤ n && n ≤ r.last && (n - r.first) % r.step == 0

/-- The character that a character of the run becomes. -/
def move (r : CaseRun) (c : Char) : Char :=
  Char.ofNat (Int.toNat (c.toNat + r.distance))

end CaseRun

end PeopleFeed.Text
