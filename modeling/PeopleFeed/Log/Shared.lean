/-! The journal that a process shares: the first to ask for it makes it, and everyone after that is
given the same one until it is reset. -/
namespace PeopleFeed.Log

/-- What is shared, if it has been made, and how many have been made so far. -/
structure Shared (α : Type) where
  kept : Option α
  made : Nat

namespace Shared

variable {α ε : Type} {s s' : Shared α} {make : Except ε α} {a : α}

def fresh : Shared α :=
  ⟨none, 0⟩

/-- What is shared is made only where there is none. Where it cannot be made, there is still
none. -/
def obtain (make : Except ε α) (s : Shared α) : Except ε (α × Shared α) :=
  match s.kept with
  | some a => .ok (a, s)
  | none => make.map fun a => (a, ⟨some a, s.made + 1⟩)

/-- Everyone who has been given what is shared sees a change of it. -/
def change (f : α → α) (s : Shared α) : Shared α :=
  { s with kept := s.kept.map f }

def reset (s : Shared α) : Shared α :=
  { s with kept := none }

theorem obtain_of_kept (h : s.kept = some a) : s.obtain make = .ok (a, s) := by
  simp [obtain, h]

/-- What has been given to one is given to the next, whatever that one asks for. -/
theorem obtain_of_obtain (h : s.obtain make = .ok (a, s')) (make' : Except ε α) :
    s'.obtain make' = .ok (a, s') := by
  apply obtain_of_kept
  unfold obtain at h
  split at h
  next b hb =>
    obtain ⟨rfl, rfl⟩ := Prod.mk.inj (Except.ok.inj h)
    exact hb
  next =>
    cases make with
    | error e => cases h
    | ok b =>
      obtain ⟨rfl, rfl⟩ := Prod.mk.inj (Except.ok.inj h)
      rfl

end Shared

end PeopleFeed.Log
