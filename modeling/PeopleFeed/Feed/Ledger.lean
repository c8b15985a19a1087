/-!
Who must not be emitted: the requester, those connected to the requester, and those emitted
already. The last only grow.
-/
namespace PeopleFeed.Feed

/-- Whether an id may still be emitted. -/
def isEligible (id : String) (connected processed : List String) (requester : String) : Bool :=
  id != requester && !connected.contains id && !processed.contains id

/-- The exclusions of one run. -/
structure Ledger where
  requester : String
  connected : List String
  processed : List String
  deriving DecidableEq, Repr, Inhabited

namespace Ledger

def isEligible (l : Ledger) (id : String) : Bool :=
  Feed.isEligible id l.connected l.processed l.requester

/-- Enters an id; one that is entered already changes nothing. -/
def mark (l : Ledger) (id : String) : Ledger :=
  if l.processed.contains id then l else { l with processed := l.processed ++ [id] }

/-- How many have been emitted. -/
def size (l : Ledger) : Nat :=
  l.processed.length

theorem isEligible_iff {l : Ledger} {id : String} :
    l.isEligible id = true ↔ id ≠ l.requester ∧ id ∉ l.connected ∧ id ∉ l.processed := by
  simp [isEligible, Feed.isEligible, and_assoc]

theorem mem_processed_mark {l : Ledger} {id k : String} :
    k ∈ (l.mark id).processed ↔ k ∈ l.processed ∨ k = id := by
  unfold mark
  split
  · rename_i h
    simp only [List.contains_eq_mem, decide_eq_true_eq] at h
    constructor
    · exact Or.inl
    · rintro (hk | rfl)
      · exact hk
      · exact h
  · simp

theorem nodup_processed_mark {l : Ledger} {id : String} (h : l.processed.Nodup) :
    (l.mark id).processed.Nodup := by
  unfold mark
  split
  · exact h
  · rename_i hid
    simp only [List.contains_eq_mem, decide_eq_true_eq] at hid
    exact List.nodup_append.2 ⟨h, by simp, by
      intro a ha b hb heq
      simp only [List.mem_singleton] at hb
      exact hid (hb ▸ heq ▸ ha)⟩

end Ledger

end PeopleFeed.Feed
