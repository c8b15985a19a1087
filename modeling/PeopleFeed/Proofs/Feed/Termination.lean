import PeopleFeed.Proofs.Feed.Bookkeeping

/-! Every run ends, unless its stream never does. -/
namespace PeopleFeed.Feed

variable {σ τ : Type} {c : Collaborators σ} {sh : Shuffler τ} {rq : Request} {s t : State σ τ}

/-- How far a run is from its end: the stages count down and never go back. -/
def Stage.rank : Stage → Nat
  | .connecting | .pulling | .looking .stream _ => 6
  | .drained => 5
  | .resolving => 4
  | .listing _ => 3
  | .grouping _ | .gathering .. => 2
  | .filling _ | .looking (.pool _) _ => 1
  | .halted _ => 0

/-- How many steps a run may still make at a rank, search results apart. -/
def Stage.left : Stage → Nat
  | .connecting | .looking .stream _ => 1
  | .grouping todo => 2 * todo.length
  | .gathering _ todo => 2 * todo.length + 1
  | .filling todo => 2 * todo.length
  | .looking (.pool todo) _ => 2 * todo.length + 1
  | .pulling | .drained | .resolving | .listing _ | .halted _ => 0

theorem Stage.rank_pos {stage : Stage} (h : stage.isHalted = false) : 0 < stage.rank := by
  cases stage with
  | looking origin => cases origin <;> exact Nat.succ_pos _
  | halted => cases h
  | _ => exact Nat.succ_pos _

theorem Origin.rank_next (origin : Origin) (id : String) :
    origin.next.rank = (Stage.looking origin id).rank := by
  cases origin <;> rfl

theorem Origin.left_next (origin : Origin) (id : String) :
    (Stage.looking origin id).left = origin.next.left + 1 := by
  cases origin <;> rfl

/-- A step leads to a lower rank or, within a rank, uses up what is left there. Only a search result
gives a run more to do. -/
theorem rank_transition (h : Transition c sh rq s t) (hs : s.stage.isHalted = false) :
    t.stage.rank < s.stage.rank ∨
      t.stage.rank = s.stage.rank ∧
        t.stage.left < s.stage.left + 2 * (s.takes c rq).toNat := by
  have hpos := Stage.rank_pos hs
  cases h with
  | rested hst => simp [hst, Stage.isHalted] at hs
  | faulted | met | nameless | refused | unresolved | finished => exact .inl hpos
  | connected hst => exact .inr ⟨by simp [hst, Stage.rank], by simp [hst, Stage.left]⟩
  | dried hst => exact .inl (by simp [State.goto, hst, Stage.rank])
  | unrecognized hst hq ha =>
    have htakes : s.takes c rq = true :=
      State.takes_of_some (by simp [State.nextCall, hst, hq]) ha
    exact .inr ⟨by simp [State.goto, hst, Stage.rank],
      by simp [State.goto, hst, Stage.left, htakes]⟩
  | passedOver ho | chosen ho =>
    right
    have htakes := ho.takes
    cases ho with
    | stream hst =>
      simp [State.goto, Origin.next, hst, Stage.rank, Stage.left, htakes, Origin.phase]
    | pool hst =>
      simp [State.goto, Origin.next, hst, Stage.rank, Stage.left]
      omega
  | @emitted origin id _ hst | @skipped origin id _ hst =>
    have hrank := origin.rank_next id
    have hleft := origin.left_next id
    rw [hst]
    exact .inr ⟨hrank, by simp only [State.goto]; omega⟩
  | turned hst | resolved hst | drawn hst =>
    exact .inl (by simp [State.goto, State.draw, hst, Stage.rank])
  | listed hst =>
    left
    unfold State.startGroups
    split <;> simp [State.goto, hst, Stage.rank]
  | grouped hst | ungrouped hst | gathered hst =>
    right
    simp [State.goto, hst, Stage.rank, Stage.left]
    omega

/-- A run ends, or its stream gives it one search result after the other for ever. -/
theorem halts_or_endless (c : Collaborators σ) (sh : Shuffler τ) (rq : Request)
    (s : State σ τ) :
    (∃ n, (run c sh rq n s).stage.isHalted = true) ∨
      ∀ m, ∃ n, m ≤ itemsIn (exchanges c sh rq n s) := by
  by_contra hnot
  push Not at hnot
  obtain ⟨hlive, bound, hbound⟩ := hnot
  -- With no more than so many search results, each step lowers this pair.
  let weight (n : Nat) : Nat ×ₗ Nat :=
    toLex ((run c sh rq n s).stage.rank,
      (run c sh rq n s).stage.left + 2 * (bound - itemsIn (exchanges c sh rq n s)))
  obtain ⟨n, hn⟩ := WellFounded.not_rel_apply_succ (r := (· < ·)) weight
  apply hn
  have hst : (run c sh rq n s).stage.isHalted = false := by
    simpa using hlive n
  have hitems := itemsIn_succ c sh rq n s
  have hnext := hbound (n + 1)
  have hrank := rank_transition (transition_step c sh rq (run c sh rq n s)) hst
  rw [← run_succ_last] at hrank
  refine Prod.Lex.toLex_lt_toLex.2 ?_
  rcases hrank with hlt | ⟨heq, hlt⟩
  · exact .inl hlt
  · refine .inr ⟨heq, ?_⟩
    omega

end PeopleFeed.Feed
