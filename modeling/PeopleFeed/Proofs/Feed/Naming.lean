import PeopleFeed.Proofs.Feed.Pool
import PeopleFeed.Proofs.Feed.Run

/-! Nobody without a name is pooled, so that nobody without a name is ever considered. -/
namespace PeopleFeed.Feed

variable {σ τ : Type} {c : Collaborators σ} {sh : Shuffler τ} {rq : Request}
  {s t base : State σ τ} {origin : Origin} {id : String}

/-- Those who wait in a pool to be considered. -/
def Stage.waiting : Stage → List String
  | .filling todo | .looking (.pool todo) _ => todo
  | _ => []

/-- A pool holds nobody twice, and nobody without a name is pooled or drawn. -/
structure Named (s : State σ τ) : Prop where
  nodup : s.pool.Nodup
  pool : "" ∉ s.pool
  waiting : "" ∉ s.stage.waiting

theorem named_initial (env : σ) (shuffler : τ) (requester : String) :
    Named (.initial env shuffler requester) :=
  ⟨List.nodup_nil, List.not_mem_nil, List.not_mem_nil⟩

theorem Offer.id_ne_empty (h : Offer c rq s origin id base) (hs : Named s) : id ≠ "" := by
  cases h with
  | stream _ _ _ hid => exact Search.Candidate.entityId_ne_empty hid
  | pool hst =>
    rintro rfl
    exact hs.waiting (by simp [hst, Stage.waiting])

/-- A step that pools nobody has to see to those who wait only. -/
theorem Named.frame (h : Named s) (hp : t.pool = s.pool) (hw : "" ∉ t.stage.waiting) : Named t :=
  ⟨hp ▸ h.nodup, hp ▸ h.pool, hw⟩

theorem Offer.named (h : Offer c rq s origin id base) (hs : Named s) :
    base.pool = s.pool ∧ "" ∉ origin.next.waiting := by
  cases h with
  | stream => exact ⟨rfl, List.not_mem_nil⟩
  | pool hst =>
    refine ⟨rfl, fun hmem => hs.waiting ?_⟩
    rw [hst]
    exact List.mem_cons_of_mem _ hmem

/-- What waits behind a candidate waits once it has been looked up. -/
theorem waiting_next (hs : s.stage = .looking origin id) :
    origin.next.waiting = s.stage.waiting := by
  cases origin <;> simp [hs, Origin.next, Stage.waiting]

theorem named_transition (h : Transition c sh rq s t) (hs : Named s) : Named t := by
  cases h with
  | rested => exact hs
  | refused ho => exact hs.frame (ho.named hs).1 List.not_mem_nil
  | passedOver ho => exact hs.frame (ho.named hs).1 (ho.named hs).2
  | @chosen _ origin _ ho =>
    refine hs.frame (ho.named hs).1 ?_
    cases origin with
    | stream => exact List.not_mem_nil
    | pool => exact (ho.named hs).2
  | emitted hst | skipped hst =>
    refine hs.frame rfl ?_
    have hw := hs.waiting
    rw [← waiting_next hst] at hw
    exact hw
  | listed =>
    unfold State.startGroups
    split <;> exact ⟨List.nodup_nil, List.not_mem_nil, List.not_mem_nil⟩
  | drawn =>
    refine hs.frame rfl fun hmem => hs.pool ?_
    exact (State.sortedPool_perm _).mem_iff.1 ((sh.perm ..).mem_iff.1 hmem)
  | gathered =>
    refine ⟨State.nodup_pooled hs.nodup, fun hmem => ?_, List.not_mem_nil⟩
    rcases State.mem_pooled.1 hmem with hmem | hmem
    · exact hs.pool hmem
    · exact (State.mem_namesIn.1 hmem).2 rfl
  | _ => exact hs.frame rfl List.not_mem_nil

theorem named_run (c : Collaborators σ) (sh : Shuffler τ) (rq : Request) (env : σ) (shuffler : τ)
    (n : Nat) : Named (run c sh rq n (.initial env shuffler rq.requester)) :=
  run_induction (fun _ _ h hs => named_transition h hs)
    (named_initial env shuffler rq.requester) n

end PeopleFeed.Feed
