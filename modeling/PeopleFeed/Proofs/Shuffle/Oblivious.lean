import PeopleFeed.Shuffle.Seeded

/-! Shufflers that do not look at what they shuffle: how their state moves on depends on nothing but
the length of the list. -/
namespace PeopleFeed.Shuffler

variable {τ : Type}

/-- After lists of one length the shuffler is in one state, whatever the lists hold. -/
def IsOblivious (sh : Shuffler τ) : Prop :=
  ∀ {α β : Type} (t : τ) (xs : List α) (ys : List β), xs.length = ys.length →
    (sh.shuffle t xs).2 = (sh.shuffle t ys).2

/-- The places that are drawn do not depend on the items there. -/
theorem shuffleUpTo_snd {α β : Type} (i : Nat) (t : Twister) (xs : Array α) (ys : Array β) :
    (shuffleUpTo i t xs).2 = (shuffleUpTo i t ys).2 := by
  induction i generalizing t xs ys with
  | zero => rfl
  | succ i ih => exact ih ..

theorem isOblivious_seeded : seeded.IsOblivious := by
  intro α β t xs ys h
  simp only [seeded, h]
  exact shuffleUpTo_snd ..

/-- None of the orders that a feed can be asked for looks at the items. -/
theorem isOblivious_ofOrder : ofOrder.IsOblivious := by
  intro α β o xs ys h
  cases o with
  | random t => exact congrArg Order.random (isOblivious_seeded t xs ys h)
  | _ => rfl

end PeopleFeed.Shuffler
