import PeopleFeed.Fault
import PeopleFeed.Feed.Count

/-!
Feed policies: how many records a page has unless its caller says otherwise, and below how many
records a feed counts as falling short. The two are independent.
-/
namespace PeopleFeed.Feed

open PeopleFeed.Json (Value)

/-- The page size unless set otherwise. -/
def standardQuota : Nat := 25

/-- The fewest acceptable records unless set otherwise: this one goes to eleven. -/
def standardMinimum : Nat := 11

/-- Reads a count that must be positive. -/
def positiveCount (limit : Limit) (v : Value) : Except Breach Count :=
  match Count.ofValue? v with
  | some c => if 0 < c.toInt then .ok c else .error (.badLimit limit v)
  | none => .error (.badLimit limit v)

/-- Reads a count that must not be negative. -/
def nonNegativeCount (limit : Limit) (v : Value) : Except Breach Count :=
  match Count.ofValue? v with
  | some c => if 0 ≤ c.toInt then .ok c else .error (.badLimit limit v)
  | none => .error (.badLimit limit v)

/-- A page size and a shortfall threshold. -/
structure Policy where
  defaultQuota : Count
  minimumAcceptable : Count
  deriving DecidableEq, Repr

namespace Policy

/-- The policy that holds unless another is given. -/
def standard : Policy :=
  ⟨.number standardQuota, .number standardMinimum⟩

/-- The policy of two values, if both are acceptable. -/
def make (defaultQuota minimumAcceptable : Value) : Except Breach Policy := do
  let quota ← positiveCount .defaultQuota defaultQuota
  let minimum ← nonNegativeCount .minimumAcceptable minimumAcceptable
  pure ⟨quota, minimum⟩

/-- The page size of a request: the requested one, if it is acceptable, or else the policy's. -/
def resolveQuota (p : Policy) (itemsPerPage : Option Value) : Except Breach Count :=
  match itemsPerPage with
  | none | some .null => .ok p.defaultQuota
  | some v => positiveCount .itemsPerPage v

end Policy

theorem positiveCount_pos {limit : Limit} {v : Value} {c : Count}
    (h : positiveCount limit v = .ok c) : 0 < c.toInt := by
  unfold positiveCount at h
  split at h
  · split at h
    · cases h
      assumption
    · cases h
  · cases h

end PeopleFeed.Feed
