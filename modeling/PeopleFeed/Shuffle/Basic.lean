/-! Shufflers: sources of reorderings, with a state that moves on from one shuffle to the next. -/
namespace PeopleFeed

/-- A way to reorder lists. Whatever the state, a list is only reordered. -/
structure Shuffler (τ : Type) where
  shuffle : {α : Type} → τ → List α → List α × τ
  perm : ∀ {α : Type} (t : τ) (xs : List α), (shuffle t xs).1.Perm xs

namespace Shuffler

/-- Leaves every list as it is. -/
def keep : Shuffler Unit where
  shuffle t xs := (xs, t)
  perm _ _ := .rfl

/-- Reverses every list. -/
def reverse : Shuffler Unit where
  shuffle t xs := (xs.reverse, t)
  perm _ xs := xs.reverse_perm

/-- A list with its first item moved to the end. -/
def rotated {α : Type} : List α → List α
  | [] => []
  | x :: xs => xs ++ [x]

/-- Moves the first item of every list to the end. -/
def rotate : Shuffler Unit where
  shuffle t xs := (rotated xs, t)
  perm _ xs := by
    cases xs with
    | nil => exact .nil
    | cons x xs => exact List.perm_append_comm

end Shuffler

end PeopleFeed
