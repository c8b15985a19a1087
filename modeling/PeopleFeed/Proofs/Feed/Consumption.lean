import PeopleFeed.Feed.Session
import PeopleFeed.Proofs.Feed.Safety

/-! A run consumes its stream first. Once the stream is consumed the run never returns to it, and
until the drawn pool is considered the feed holds just what was found on the stream. -/
namespace PeopleFeed.Feed

variable {σ τ : Type} {c : Collaborators σ} {sh : Shuffler τ} {rq : Request}
  {s t : State σ τ} {m n : Nat}

/-- The stages in which the stream is consumed, and the one before. -/
def Stage.isPrimary : Stage → Bool
  | .connecting | .pulling | .looking .stream _ => true
  | _ => false

/-- The stages from the end of the stream to the pool of the groups' members. -/
def Stage.isTurning : Stage → Bool
  | .drained | .resolving | .listing _ | .grouping _ | .gathering .. => true
  | _ => false

theorem Stage.isPrimary_of_isTurning {stage : Stage} (h : stage.isTurning = true) :
    stage.isPrimary = false := by
  cases stage with
  | drained | resolving | listing | grouping | gathering => rfl
  | _ => simp [Stage.isTurning] at h

theorem primary_transition (h : Transition c sh rq s t) (hs : s.stage.isPrimary = true) :
    t.stage.isPrimary = true ∨ Session.isConsumed t.stage = true := by
  cases h with
  | rested hst => simp [hst, Stage.isPrimary] at hs
  | faulted | met | dried | nameless | refused => exact .inr rfl
  | connected | unrecognized => exact .inl rfl
  | passedOver ho | chosen ho =>
    cases ho with
    | stream => exact .inl rfl
    | pool hst => simp [hst, Stage.isPrimary] at hs
  | @emitted origin _ _ hst | @skipped origin _ _ hst =>
    cases origin with
    | stream => exact .inl rfl
    | pool => simp [hst, Stage.isPrimary] at hs
  | _ hst => simp [hst, Stage.isPrimary] at hs

/-- A run does not return to its stream. -/
theorem secondary_transition (h : Transition c sh rq s t) (hs : s.stage.isPrimary = false) :
    t.stage.isPrimary = false := by
  cases h with
  | rested => exact hs
  | connected hst | unrecognized hst => simp [hst, Stage.isPrimary] at hs
  | passedOver ho | chosen ho =>
    cases ho with
    | stream hst => simp [hst, Stage.isPrimary] at hs
    | pool => rfl
  | @emitted origin _ _ hst | @skipped origin _ _ hst =>
    cases origin with
    | stream => simp [hst, Stage.isPrimary] at hs
    | pool => rfl
  | listed =>
    unfold State.startGroups
    split <;> rfl
  | _ => rfl

/-- The connections are asked for only at the beginning. -/
theorem stage_ne_connecting (h : Transition c sh rq s t) : t.stage ≠ .connecting := by
  by_cases hs : s.stage = .connecting
  · cases h with
    | rested hst => simp [hst]
    | refused ho | passedOver ho | chosen ho => cases ho <;> simp_all
    | met hst => rcases hst with hst | hst <;> simp [hst] at hs
    | faulted | connected => simp [State.goto]
    | _ hst => simp [hst] at hs
  · exact (connected_transition h hs).1

/-- Stopping at a stage is running for a while. -/
theorem exists_run_of_runTo (stop : Stage → Bool) (c : Collaborators σ) (sh : Shuffler τ)
    (rq : Request) (n : Nat) (s : State σ τ) :
    ∃ m ≤ n, runTo stop c sh rq n s = run c sh rq m s ∧
      (∀ j < m, stop (run c sh rq j s).stage = false) ∧
      (m < n → stop (run c sh rq m s).stage = true) := by
  induction n generalizing s with
  | zero => exact ⟨0, le_rfl, rfl, by simp, by simp⟩
  | succ n ih =>
    cases hs : stop s.stage with
    | true =>
      refine ⟨0, Nat.zero_le _, ?_, by simp, fun _ => hs⟩
      simp [runTo, run, hs]
    | false =>
      obtain ⟨m, hm, hrun, hbefore, hafter⟩ := ih (step c sh rq s)
      refine ⟨m + 1, by omega, ?_, ?_, ?_⟩
      · rw [run_succ, ← hrun]
        simp [runTo, hs]
      · intro j hj
        cases j with
        | zero => exact hs
        | succ j =>
          rw [run_succ]
          exact hbefore j (by omega)
      · intro hlt
        rw [run_succ]
        exact hafter (by omega)

/-- A run up to where its stream is consumed. -/
def consumed (c : Collaborators σ) (sh : Shuffler τ) (rq : Request) (n : Nat) (s : State σ τ) :
    State σ τ :=
  runTo Session.isConsumed c sh rq n s

theorem isPrimary_of_isConsumed {stage : Stage} (h : Session.isConsumed stage = true) :
    stage.isPrimary = false := by
  cases stage with
  | drained | halted => rfl
  | _ => simp [Session.isConsumed] at h

/-- Until the stream is consumed, the run is busy with it. -/
theorem primary_run (hs : s.stage.isPrimary = true)
    (hn : ∀ j < n, Session.isConsumed (run c sh rq j s).stage = false) :
    (run c sh rq n s).stage.isPrimary = true ∨
      Session.isConsumed (run c sh rq n s).stage = true := by
  induction n with
  | zero => exact .inl hs
  | succ n ih =>
    rcases ih fun j hj => hn j (by omega) with ih | ih
    · rw [run_succ_last]
      exact primary_transition (transition_step ..) ih
    · rw [hn n (by omega)] at ih
      cases ih

/-- There is one point where a run has consumed its stream: before it the run is busy with the
stream, and after it never again. -/
theorem exists_consumed (c : Collaborators σ) (sh : Shuffler τ) (rq : Request)
    (hs : s.stage.isPrimary = true) (n : Nat) :
    ∃ m ≤ n, consumed c sh rq n s = run c sh rq m s ∧
      (∀ j < m, (run c sh rq j s).stage.isPrimary = true) ∧
      ((run c sh rq m s).stage.isPrimary = true ∧ m = n ∨
        Session.isConsumed (run c sh rq m s).stage = true) := by
  obtain ⟨m, hm, hrun, hbefore, hafter⟩ := exists_run_of_runTo Session.isConsumed c sh rq n s
  refine ⟨m, hm, hrun, ?_, ?_⟩
  · intro j hj
    rcases primary_run hs fun k hk => hbefore k (hk.trans hj) with hp | hp
    · exact hp
    · rw [hbefore j hj] at hp
      cases hp
  · rcases primary_run hs hbefore with hp | hp
    · refine .inl ⟨hp, le_antisymm hm (not_lt.1 fun hlt => ?_)⟩
      rw [isPrimary_of_isConsumed (hafter hlt)] at hp
      cases hp
    · exact .inr hp

theorem turning_transition (h : Transition c sh rq s t) (hs : s.stage.isPrimary = false)
    (ht : t.stage.isTurning = true) : s.stage.isTurning = true ∧ t.records = s.records := by
  cases h with
  | rested => exact ⟨ht, rfl⟩
  | dried hst => simp [hst, Stage.isPrimary] at hs
  | turned hst | resolved hst | grouped hst | ungrouped hst | gathered hst =>
    exact ⟨by simp [hst, Stage.isTurning], rfl⟩
  | listed hst =>
    refine ⟨by simp [hst, Stage.isTurning], ?_⟩
    unfold State.startGroups
    split <;> rfl
  | passedOver ho | chosen ho =>
    cases ho <;> simp [State.goto, Origin.next, Stage.isTurning] at ht
  | @emitted origin | @skipped origin =>
    cases origin <;> simp [State.goto, Origin.next, Stage.isTurning] at ht
  | _ => simp [State.goto, State.draw, State.finishPool, Stage.isTurning] at ht

/-- As long as the pool is not drawn, nothing is added to what was found on the stream. -/
theorem records_of_isTurning (hs : s.stage.isPrimary = true) (hmn : m ≤ n)
    (hm : (run c sh rq m s).stage.isTurning = true) :
    (run c sh rq m s).records = (consumed c sh rq n s).records := by
  obtain ⟨k, -, hrun, hbefore, hat⟩ := exists_consumed c sh rq hs n
  have hkm : k ≤ m := by
    by_contra hlt
    have hp := hbefore m (by omega)
    rw [Stage.isPrimary_of_isTurning hm] at hp
    cases hp
  have hk : (run c sh rq k s).stage.isPrimary = false := by
    rcases hat with ⟨-, rfl⟩ | hat
    · obtain rfl : m = k := le_antisymm hmn hkm
      exact Stage.isPrimary_of_isTurning hm
    · exact isPrimary_of_isConsumed hat
  obtain ⟨j, rfl⟩ := Nat.exists_eq_add_of_le hkm
  rw [hrun]
  rw [run_add] at hm ⊢
  exact (run_induction
    (P := fun t => t.stage.isPrimary = false ∧
      (t.stage.isTurning = true → t.records = (run c sh rq k s).records))
    (fun u t h hu => ⟨secondary_transition h hu.1, fun ht =>
      have hback := turning_transition h hu.1 ht
      hback.2.trans (hu.2 hback.1)⟩)
    ⟨hk, fun _ => rfl⟩ j).2 hm

end PeopleFeed.Feed
