import PeopleFeed.Proofs.Feed.Safety

/-! A run for a smaller page is the beginning of a run for a larger one. The two go on alike until
the smaller page is full; there the smaller run ends, whatever the larger one still does. -/
namespace PeopleFeed.Feed

variable {σ τ : Type} {c : Collaborators σ} {sh : Shuffler τ} {rq : Request}
  {s s' : State σ τ} {q : Nat}

/-- The quota shows only in the test whether there is room. -/
theorem step_quota_of_room (h : s.ledger.size < rq.quota) (h' : s.ledger.size < q) :
    step c sh { rq with quota := q } s = step c sh rq s := by
  cases hs : s.stage with
  | grouping todo | filling todo => cases todo <;> simp [step, hs, h, h']
  | resolving =>
    simp only [step, hs]
    congr 1
    funext found s
    rcases found with _ | ⟨_ | _, id, properties⟩ <;> rfl
  | _ => simp [step, hs, h, h']

/-- A run whose page is full ends with its next step, unless it has just begun or is over. -/
theorem step_of_full (c : Collaborators σ) (sh : Shuffler τ) (q : Nat) (hs : Sound rq s)
    (hfull : rq.quota ≤ s.ledger.size) :
    step c sh { rq with quota := q } s = step c sh rq s ∨
      (step c sh rq s).stage = .halted none ∧ (step c sh rq s).records = s.records ∧
        (step c sh rq s).calls = s.calls := by
  have hroom : s.stage.needsRoom = false := by
    by_contra hn
    have := hs.room (by simpa using hn)
    omega
  have hq : ¬ s.ledger.size < rq.quota := by omega
  cases hst : s.stage with
  | connecting | halted => exact .inl (by simp [step, hst])
  | pulling =>
    right
    simp [step, hst, hq, State.goto]
  | filling todo =>
    right
    cases todo <;> simp [step, hst, hq, State.finishPool, State.goto, State.log]
  | _ => simp [hst, Stage.needsRoom] at hroom

/-- How a run stands to the one for a larger page: both are alike, or the page is full and the run
has ended with a beginning of what the other has. -/
def Cut (rq : Request) (s s' : State σ τ) : Prop :=
  s = s' ∨ s.stage = .halted none ∧ s.records.length = rq.quota ∧ s.records <+: s'.records ∧
    s.calls <+: s'.calls

theorem cut_step (hs : Sound rq s) (hq : rq.quota ≤ q) (h : Cut rq s s') :
    Cut rq (step c sh rq s) (step c sh { rq with quota := q } s') := by
  have hsize := hs.size_eq
  rcases h with rfl | ⟨hst, hlen, hrecords, hcalls⟩
  · by_cases hroom : s.ledger.size < rq.quota
    · exact .inl (step_quota_of_room hroom (by omega)).symm
    · rcases step_of_full c sh q hs (by omega) with he | ⟨hh, hr, hc⟩
      · exact .inl he.symm
      · have hgrow := extends_transition (transition_step c sh { rq with quota := q } s)
        have hle := hs.size_le
        exact .inr ⟨hh, by rw [hr]; omega, hr ▸ hgrow.records, hc ▸ hgrow.calls⟩
  · have hgrow := extends_transition (transition_step c sh { rq with quota := q } s')
    rw [step_of_halted hst]
    exact .inr ⟨hst, hlen, hrecords.trans hgrow.records, hcalls.trans hgrow.calls⟩

theorem cut_run (c : Collaborators σ) (sh : Shuffler τ) (hq : rq.quota ≤ q) (env : σ)
    (shuffler : τ) (n : Nat) :
    Cut rq (run c sh rq n (.initial env shuffler rq.requester))
      (run c sh { rq with quota := q } n (.initial env shuffler rq.requester)) := by
  induction n with
  | zero => exact .inl rfl
  | succ n ih =>
    rw [run_succ_last, run_succ_last]
    exact cut_step (sound_run c sh rq env shuffler n) hq ih

/-- When the run for the larger page has ended, so has the other, with the first of its records. -/
theorem Cut.ended (h : Cut rq s s') (hs : Sound rq s) {denied : Option Denial}
    (hend : s'.stage = .halted (denialFault denied)) :
    ∃ denied, s.stage = .halted (denialFault denied) ∧ s.calls <+: s'.calls ∧
      s.records = s'.records.take rq.quota := by
  rcases h with rfl | ⟨hst, hlen, hrecords, hcalls⟩
  · have hle : s.records.length ≤ rq.quota := hs.size_eq ▸ hs.size_le
    exact ⟨denied, hend, List.prefix_rfl, (List.take_of_length_le hle).symm⟩
  · refine ⟨none, hst, hcalls, ?_⟩
    rw [← hlen]
    exact List.prefix_iff_eq_take.1 hrecords

variable {p : Policy} {o : Order} {v v' : Option Json.Value} {small large : Count}

/-- Of two orders that differ in their page size, the one for the smaller page gives a feed if the
other does: it makes the first of the other's calls, and has the first of its records. -/
theorem feed_take_of_quota_le (c : Collaborators σ) (sh : Shuffler τ) (fieldNames : List String)
    (fuel : Nat) (env : σ) (shuffler : τ)
    (hsmall : { o with itemsPerPage := v }.check p = .ok small)
    (hlarge : { o with itemsPerPage := v' }.check p = .ok large)
    (hle : small.toInt ≤ large.toInt) {r' : Result}
    (hr' : (assemble c sh p fieldNames fuel { o with itemsPerPage := v' } env shuffler).result =
      .ok r') :
    ∃ r, (assemble c sh p fieldNames fuel { o with itemsPerPage := v } env shuffler).result =
        .ok r ∧
      (assemble c sh p fieldNames fuel { o with itemsPerPage := v } env shuffler).calls <+:
        (assemble c sh p fieldNames fuel { o with itemsPerPage := v' } env shuffler).calls ∧
      r.records = r'.records.take small.toNat := by
  obtain ⟨denied, hend, rfl⟩ := (assemble_eq_ok_iff hlarge).1 hr'
  rw [calls_assemble hsmall, calls_assemble hlarge]
  have hquota : (o.request small fieldNames).quota ≤ large.toNat := Int.toNat_le_toNat hle
  have hcut := cut_run c sh hquota env shuffler fuel
  obtain ⟨denied', hend', hcalls, hrecords⟩ :=
    hcut.ended (sound_run c sh (o.request small fieldNames) env shuffler fuel) hend
  exact ⟨_, (assemble_eq_ok_iff hsmall).2 ⟨denied', hend', rfl⟩, hcalls, hrecords⟩

/-- Ann's feed of one is the beginning of her feed of three. It is full before the choir is asked
for. -/
theorem feed_take_choir :
    (⟨"ann", [], some (.int 1)⟩ : Order).check .standard = .ok (.number 1) ∧
      (⟨"ann", [], some (.int 3)⟩ : Order).check .standard = .ok (.number 3) ∧
      (Count.number 1).toInt ≤ (Count.number 3).toInt ∧
      ∃ r r', (choirOutcome 3).result = .ok r' ∧ (choirOutcome 1).result = .ok r ∧
        r'.targets = ["bob", "eve", "dan"] ∧ r.records = r'.records.take 1 ∧
        (choirOutcome 1).calls <+: (choirOutcome 3).calls := by
  have hsmall : (⟨"ann", [], some (.int 1)⟩ : Order).check .standard = .ok (.number 1) := by cbv
  have hle : (Count.number 1).toInt ≤ (Count.number 3).toInt := by decide
  obtain ⟨r, hr, hcalls, hrecords⟩ :=
    feed_take_of_quota_le (o := ⟨"ann", [], none⟩) choirWorld.collaborators .reverse
      publicFieldNames 40 (fun _ => .ok none) () hsmall check_three hle choirOutcome_three
  exact ⟨hsmall, check_three, hle, r, _, choirOutcome_three, hr, rfl, hrecords, hcalls⟩

end PeopleFeed.Feed
