import PeopleFeed.Shuffle.Basic
import PeopleFeed.Shuffle.MersenneTwister

/-!
Shuffling by a generator: from the last place down to the second, the item there is swapped with
one drawn from the places up to it.
-/
namespace PeopleFeed.Shuffler

/-- Swaps two items; places beyond the end change nothing. -/
def swapItems {α : Type} (xs : Array α) (i j : Nat) : Array α :=
  if h : i < xs.size ∧ j < xs.size then xs.swap i j h.1 h.2 else xs

theorem swapItems_perm {α : Type} (xs : Array α) (i j : Nat) :
    (swapItems xs i j).toList.Perm xs.toList := by
  unfold swapItems
  split
  · exact Array.perm_iff_toList_perm.1 (Array.swap_perm ..)
  · exact .rfl

/-- Shuffles the items up to the given place. -/
def shuffleUpTo {α : Type} : Nat → Twister → Array α → Array α × Twister
  | 0, t, xs => (xs, t)
  | i + 1, t, xs =>
    let (j, t) := t.below (i + 2) Twister.drawLimit
    shuffleUpTo i t (swapItems xs (i + 1) j)

theorem shuffleUpTo_perm {α : Type} (i : Nat) (t : Twister) (xs : Array α) :
    (shuffleUpTo i t xs).1.toList.Perm xs.toList := by
  induction i generalizing t xs with
  | zero => exact .rfl
  | succ i ih => exact (ih ..).trans (swapItems_perm ..)

/-- Shuffles by the Mersenne Twister. -/
def seeded : Shuffler Twister where
  shuffle t xs :=
    let r := shuffleUpTo (xs.length - 1) t xs.toArray
    (r.1.toList, r.2)
  perm t xs := by simpa using shuffleUpTo_perm (xs.length - 1) t xs.toArray

/-- The orders that a feed can be asked for. -/
inductive Order
  | keep
  | reverse
  | rotate
  | random (state : Twister)
  deriving Inhabited

/-- The shuffler of all these orders. -/
def ofOrder : Shuffler Order where
  shuffle o xs :=
    match o with
    | .keep => (xs, .keep)
    | .reverse => (xs.reverse, .reverse)
    | .rotate => (rotated xs, .rotate)
    | .random t => ((seeded.shuffle t xs).1, .random (seeded.shuffle t xs).2)
  perm o xs := by
    cases o with
    | keep => exact .rfl
    | reverse => exact xs.reverse_perm
    | rotate => exact rotate.perm () xs
    | random t => exact seeded.perm t xs

end PeopleFeed.Shuffler
