import PeopleFeed.Proofs.Feed.Consumption
import PeopleFeed.Proofs.Feed.Exchange

/-! The states that a feed tells, and what they say of its run: how the stream was left, and with it
why there are as many records as there are. -/
namespace PeopleFeed.Feed

variable {σ τ : Type} {c : Collaborators σ} {sh : Shuffler τ} {rq : Request} {s t : State σ τ}
  {k n : Nat} {env : σ} {shuffler : τ} {denied : Option Denial}

/-- The states that a run has been in when it is at a stage and has not ended. -/
def Stage.passed : Stage → List AssemblyState
  | .connecting | .halted _ => []
  | .pulling | .looking .stream _ | .drained => [.consumingPrimary]
  | .resolving | .listing _ | .grouping _ | .gathering .. | .filling _ | .looking (.pool _) _ =>
    [.consumingPrimary, .consumingFallback]

theorem passed_transition (h : Transition c sh rq s t)
    (hs : s.stage.isHalted = false → s.states = s.stage.passed) (ht : t.stage.isHalted = false) :
    t.states = t.stage.passed := by
  have hpassed := hs (live_of_transition h ht)
  cases h with
  | rested => exact hpassed
  | faulted | met | nameless | refused | unresolved | finished => cases ht
  | connected hst | turned hst =>
    simp only [hpassed, hst]
    rfl
  | dried hst | unrecognized hst | resolved hst | drawn hst | grouped hst | ungrouped hst
  | gathered hst =>
    simp only [hst] at hpassed
    exact hpassed
  | passedOver ho | chosen ho =>
    cases ho with
    | stream hst | pool hst =>
      simp only [hst] at hpassed
      exact hpassed
  | @emitted origin _ _ hst | @skipped origin _ _ hst =>
    simp only [hst] at hpassed
    cases origin <;> exact hpassed
  | listed hst =>
    simp only [hst] at hpassed
    unfold State.startGroups at ht ⊢
    split at ht
    · cases ht
    · rename_i hp
      rw [if_neg hp]
      exact hpassed

/-- A run that has not ended tells the states of its stage. -/
theorem passed_run (c : Collaborators σ) (sh : Shuffler τ) (rq : Request) (env : σ)
    (shuffler : τ) (n : Nat)
    (hn : (run c sh rq n (.initial env shuffler rq.requester)).stage.isHalted = false) :
    (run c sh rq n (.initial env shuffler rq.requester)).states =
      (run c sh rq n (.initial env shuffler rq.requester)).stage.passed :=
  run_induction (P := fun t => t.stage.isHalted = false → t.states = t.stage.passed)
    (fun _ _ => passed_transition) (fun _ => rfl) n hn

/-- The end of a run adds nothing to its states. -/
theorem states_of_halted (h : Transition c sh rq s t) (ht : t.stage.isHalted = true) :
    t.states = s.states := by
  cases h with
  | connected | turned => cases ht
  | refused ho => cases ho <;> rfl
  | passedOver ho | chosen ho => cases ho <;> rfl
  | listed =>
    unfold State.startGroups
    split <;> rfl
  | _ => rfl

/-- The stages in which the stream is consumed. -/
def Stage.isConsuming : Stage → Bool
  | .pulling | .looking .stream _ => true
  | _ => false

theorem Stage.passed_of_isConsuming {stage : Stage} (h : stage.isConsuming = true) :
    stage.passed = [.consumingPrimary] := by
  cases stage with
  | pulling => rfl
  | looking origin => cases origin <;> first | rfl | cases h
  | _ => cases h

theorem Stage.live_of_isConsuming {stage : Stage} (h : stage.isConsuming = true) :
    stage.isHalted = false := by
  cases stage with
  | halted => cases h
  | _ => rfl

/-- As many records as fit are found on the stream. -/
def Filled (rq : Request) (s : State σ τ) : Prop :=
  s.stage = .pulling ∧ s.records.length = rq.quota

/-- The stream ends while there is room. -/
def Exhausted (c : Collaborators σ) (rq : Request) (s : State σ τ) : Prop :=
  s.stage = .pulling ∧ s.records.length < rq.quota ∧ (c.respond .pull s.env).answer = .ok none

/-- A denial cuts the consumption of the stream short. -/
def CutShort (c : Collaborators σ) (rq : Request) (s : State σ τ) : Prop :=
  s.stage.isConsuming = true ∧ ∃ call d, s.nextCall rq = some call ∧
    (c.respond call s.env).answer = .error (.denial d)

/-- A run goes on behind its stream only if the stream ends. -/
theorem dried_of_leaving (h : Transition c sh rq s t) (hs : s.stage.isPrimary = true)
    (ht : t.stage.isPrimary = false) (hlive : t.stage.isHalted = false) :
    s.stage = .pulling ∧ s.ledger.size < rq.quota ∧
      (c.respond .pull s.env).answer = .ok none := by
  cases h with
  | dried hst hq ha => exact ⟨hst, hq, ha⟩
  | rested hst => simp [hst, Stage.isHalted] at hlive
  | faulted | met | nameless | refused => cases hlive
  | connected | unrecognized => cases ht
  | passedOver ho | chosen ho =>
    cases ho with
    | stream => cases ht
    | pool hst => simp [hst, Stage.isPrimary] at hs
  | @emitted origin _ _ hst | @skipped origin _ _ hst =>
    cases origin with
    | stream => cases ht
    | pool => simp [hst, Stage.isPrimary] at hs
  | _ hst => simp [hst, Stage.isPrimary] at hs

theorem exists_exhausted (c : Collaborators σ) (sh : Shuffler τ) (rq : Request) (env : σ)
    (shuffler : τ)
    (hn : (run c sh rq n (.initial env shuffler rq.requester)).stage.isPrimary = false)
    (hlive : (run c sh rq n (.initial env shuffler rq.requester)).stage.isHalted = false) :
    ∃ k < n, Exhausted c rq (run c sh rq k (.initial env shuffler rq.requester)) := by
  induction n with
  | zero => cases hn
  | succ n ih =>
    have h := transition_step c sh rq (run c sh rq n (.initial env shuffler rq.requester))
    rw [← run_succ_last] at h
    cases hp : (run c sh rq n (.initial env shuffler rq.requester)).stage.isPrimary with
    | false =>
      obtain ⟨k, hk, hexhausted⟩ := ih hp (live_of_transition h hlive)
      exact ⟨k, hk.trans (Nat.lt_succ_self n), hexhausted⟩
    | true =>
      obtain ⟨hst, hq, ha⟩ := dried_of_leaving h hp hn hlive
      rw [(sound_run c sh rq env shuffler n).size_eq] at hq
      exact ⟨n, Nat.lt_succ_self n, hst, hq, ha⟩

/-- The ways in which a run that gives a feed goes through its states. -/
inductive Way (c : Collaborators σ) (sh : Shuffler τ) (rq : Request) (env : σ) (shuffler : τ)
    (n : Nat) (denied : Option Denial) : List AssemblyState → Prop
  | refused {d : Denial} (hd : denied = some d)
      (ha : (c.respond (.connected rq.requester) env).answer = .error (.denial d)) :
      Way c sh rq env shuffler n denied []
  | filled {k : Nat} (h : Filled rq (run c sh rq k (.initial env shuffler rq.requester)))
      (hr : (run c sh rq n (.initial env shuffler rq.requester)).records =
        (run c sh rq k (.initial env shuffler rq.requester)).records) :
      Way c sh rq env shuffler n denied [.consumingPrimary]
  | cut {k : Nat} {d : Denial} (hd : denied = some d)
      (h : CutShort c rq (run c sh rq k (.initial env shuffler rq.requester))) :
      Way c sh rq env shuffler n denied [.consumingPrimary]
  | exhausted {k : Nat}
      (h : Exhausted c rq (run c sh rq k (.initial env shuffler rq.requester))) :
      Way c sh rq env shuffler n denied [.consumingPrimary, .consumingFallback]

theorem denialFault_eq_some {f : Fault} (h : denialFault denied = some f) :
    ∃ d, denied = some d ∧ f = .denial d := by
  cases denied with
  | none => cases h
  | some d =>
    cases h
    exact ⟨d, rfl, rfl⟩

/-- The ways out of the stream, but for its end. -/
theorem ending_of_isPrimary (h : Transition c sh rq s t) (hs : Sound rq s)
    (hp : s.stage.isPrimary = true) (ht : t.stage = .halted (denialFault denied)) :
    (s.stage = .connecting ∧ ∃ d, denied = some d ∧
        (c.respond (.connected rq.requester) s.env).answer = .error (.denial d)) ∨
      (Filled rq s ∧ t.records = s.records) ∨ ∃ d, denied = some d ∧ CutShort c rq s := by
  cases h with
  | @faulted call f hn ha =>
    obtain ⟨d, hd, rfl⟩ := denialFault_eq_some (f := f) (Stage.halted.inj ht).symm
    cases hst : s.stage with
    | connecting =>
      obtain rfl : _ = call := by simpa [State.nextCall, hst] using hn
      exact .inl ⟨rfl, d, hd, ha⟩
    | pulling => exact .inr (.inr ⟨d, hd, by simp [hst, Stage.isConsuming], call, d, hn, ha⟩)
    | looking origin id =>
      cases origin with
      | stream => exact .inr (.inr ⟨d, hd, by simp [hst, Stage.isConsuming], call, d, hn, ha⟩)
      | pool => simp [hst, Stage.isPrimary] at hp
    | _ => simp [hst, Stage.isPrimary] at hp
  | met hst hq =>
    rcases hst with hst | hst
    · have hfull : s.records.length = rq.quota := by
        rw [← hs.size_eq]
        exact le_antisymm hs.size_le hq
      exact .inr (.inl ⟨⟨hst, hfull⟩, rfl⟩)
    · simp [hst, Stage.isPrimary] at hp
  | rested hst => simp [hst, Stage.isPrimary] at hp
  | nameless | refused =>
    obtain ⟨d, -, hf⟩ := denialFault_eq_some (Stage.halted.inj ht).symm
    cases hf
  | passedOver ho | chosen ho =>
    cases ho with
    | stream => cases ht
    | pool hst => simp [hst, Stage.isPrimary] at hp
  | @emitted origin | @skipped origin => cases origin <;> cases ht
  | connected | dried | unrecognized => cases ht
  | _ hst => simp [hst, Stage.isPrimary] at hp

/-- Where the stream has ended there is room, so that the groups follow. -/
theorem resolving_of_drained (h : Transition c sh rq s t) (hs : Sound rq s)
    (hst : s.stage = .drained) :
    t.stage = .resolving ∧ t.states = s.states ++ [.consumingFallback] := by
  have hroom := hs.room (by simp [hst, Stage.needsRoom])
  cases h with
  | turned => exact ⟨rfl, rfl⟩
  | met _ hq => omega
  | faulted hn => simp [State.nextCall, hst] at hn
  | refused ho | passedOver ho | chosen ho => cases ho <;> simp_all
  | _ => simp_all

theorem initial_of_connecting
    (hk : (run c sh rq k (.initial env shuffler rq.requester)).stage = .connecting) : k = 0 := by
  cases k with
  | zero => rfl
  | succ k =>
    rw [run_succ_last] at hk
    exact absurd hk (stage_ne_connecting (transition_step ..))

/-- A run that gives a feed takes one of the ways. -/
theorem way_of_halted (c : Collaborators σ) (sh : Shuffler τ) (rq : Request) (env : σ)
    (shuffler : τ)
    (hn : (run c sh rq n (.initial env shuffler rq.requester)).stage =
      .halted (denialFault denied)) :
    Way c sh rq env shuffler n denied
      (run c sh rq n (.initial env shuffler rq.requester)).states := by
  have hhalted : (run c sh rq n (.initial env shuffler rq.requester)).stage.isHalted = true := by
    rw [hn]
    rfl
  obtain ⟨k, hk, hlive, h⟩ :=
    exists_last_step (s := .initial env shuffler rq.requester) rfl hhalted
  have hsound := sound_run c sh rq env shuffler k
  -- The states told at the end are those of the stage before the last step.
  rw [states_of_halted h hhalted, passed_run c sh rq env shuffler k hlive]
  cases hp : (run c sh rq k (.initial env shuffler rq.requester)).stage.isPrimary with
  | false =>
    obtain ⟨j, -, hexhausted⟩ := exists_exhausted c sh rq env shuffler hp hlive
    have hpassed : (run c sh rq k (.initial env shuffler rq.requester)).stage.passed =
        [.consumingPrimary, .consumingFallback] := by
      cases hst : (run c sh rq k (.initial env shuffler rq.requester)).stage with
      | drained =>
        have hstage := (resolving_of_drained h hsound hst).1
        rw [hn] at hstage
        cases hstage
      | looking origin =>
        cases origin with
        | stream => simp [hst, Stage.isPrimary] at hp
        | pool => rfl
      | connecting | pulling => simp [hst, Stage.isPrimary] at hp
      | halted => simp [hst, Stage.isHalted] at hlive
      | _ => rfl
    rw [hpassed]
    exact .exhausted hexhausted
  | true =>
    rcases ending_of_isPrimary h hsound hp hn with ⟨hst, d, hd, ha⟩ | ⟨hfilled, hr⟩ | ⟨d, hd, hcut⟩
    · obtain rfl := initial_of_connecting hst
      rw [hst]
      exact .refused hd ha
    · rw [hfilled.1]
      exact .filled hfilled hr
    · rw [Stage.passed_of_isConsuming hcut.1]
      exact .cut hd hcut

section

variable (hn : (run c sh rq n (.initial env shuffler rq.requester)).stage.isHalted = true)
include hn

/-- A run that has ended made every step that it had not ended before. -/
theorem lt_of_live
    (hk : (run c sh rq k (.initial env shuffler rq.requester)).stage.isHalted = false) : k < n := by
  by_contra hle
  rw [isHalted_of_le hk (not_lt.1 hle)] at hn
  cases hn

theorem states_of_refused {f : Fault}
    (ha : (c.respond (.connected rq.requester) env).answer = .error f) :
    (run c sh rq n (.initial env shuffler rq.requester)).states = [] := by
  have hpos : 0 < n := lt_of_live hn rfl
  rw [run_of_error (k := 0) (s := .initial env shuffler rq.requester) rfl ha hpos]
  rfl

theorem states_of_filled (h : Filled rq (run c sh rq k (.initial env shuffler rq.requester))) :
    (run c sh rq n (.initial env shuffler rq.requester)).states = [.consumingPrimary] := by
  have hlive : (run c sh rq k (.initial env shuffler rq.requester)).stage.isHalted = false := by
    rw [h.1]
    rfl
  have hsound := sound_run c sh rq env shuffler k
  have hstep : run c sh rq (k + 1) (.initial env shuffler rq.requester) =
      (run c sh rq k (.initial env shuffler rq.requester)).goto (.halted none) := by
    have hfull : ¬ (run c sh rq k (.initial env shuffler rq.requester)).ledger.size < rq.quota := by
      rw [hsound.size_eq, h.2]
      exact lt_irrefl _
    rw [run_succ_last]
    simp [step, h.1, hfull]
  rw [run_eq_of_halted (congrArg State.stage hstep) (lt_of_live hn hlive), hstep]
  exact (passed_run c sh rq env shuffler k hlive).trans (by rw [h.1]; rfl)

theorem states_of_cut (h : CutShort c rq (run c sh rq k (.initial env shuffler rq.requester))) :
    (run c sh rq n (.initial env shuffler rq.requester)).states = [.consumingPrimary] := by
  obtain ⟨hconsuming, call, d, hcall, ha⟩ := h
  have hlive := Stage.live_of_isConsuming hconsuming
  rw [run_of_error hcall ha (lt_of_live hn hlive)]
  exact (passed_run c sh rq env shuffler k hlive).trans (Stage.passed_of_isConsuming hconsuming)

theorem states_of_exhausted
    (h : Exhausted c rq (run c sh rq k (.initial env shuffler rq.requester))) :
    [.consumingPrimary, .consumingFallback] <+:
      (run c sh rq n (.initial env shuffler rq.requester)).states := by
  obtain ⟨hst, hroom, ha⟩ := h
  have hlive : (run c sh rq k (.initial env shuffler rq.requester)).stage.isHalted = false := by
    rw [hst]
    rfl
  rw [← (sound_run c sh rq env shuffler k).size_eq] at hroom
  have hdrained : run c sh rq (k + 1) (.initial env shuffler rq.requester) =
      ((run c sh rq k (.initial env shuffler rq.requester)).asked c .pull).goto .drained := by
    rw [run_succ_last]
    simp only [step, hst, if_pos hroom, State.ask_of_ok ha]
  have hstage := congrArg State.stage hdrained
  have hlive' : (run c sh rq (k + 1) (.initial env shuffler rq.requester)).stage.isHalted = false :=
    by rw [hstage]; rfl
  have hturned := resolving_of_drained (transition_step c sh rq _)
    (sound_run c sh rq env shuffler (k + 1)) hstage
  rw [← run_succ_last] at hturned
  have hstates : (run c sh rq (k + 2) (.initial env shuffler rq.requester)).states =
      [.consumingPrimary, .consumingFallback] := by
    rw [hturned.2, passed_run c sh rq env shuffler (k + 1) hlive', hstage]
    rfl
  have hlive'' : (run c sh rq (k + 2) (.initial env shuffler rq.requester)).stage.isHalted =
      false := by rw [hturned.1]; rfl
  rw [← hstates]
  exact (extends_run_of_le (lt_of_live hn hlive'').le).states

end

section

variable {p : Policy} {o : Order} {r : Result}

/-- What the states of a feed say of its run. It tells nothing but its end exactly if the
connections were refused; it turned to the groups exactly if the stream ended while there was room;
and it did not exactly if the stream filled it or a denial cut the stream short. So a feed that was
not cut short and did not turn to the groups is full, and one that is not full did. It falls short
exactly if it has fewer records than the policy asks for. -/
theorem states_law (c : Collaborators σ) (sh : Shuffler τ) (fieldNames : List String)
    (fuel : Nat) (env : σ) (shuffler : τ)
    (hr : (assemble c sh p fieldNames fuel o env shuffler).result = .ok r) :
    let s k := o.run c sh fieldNames r.quota k env shuffler
    let rq := o.request r.quota fieldNames
    (r.states = [.done] ↔
      ∃ d, (c.respond (.connected o.requester) env).answer = .error (.denial d)) ∧
    (r.states = [.consumingPrimary, .consumingFallback, .done] ↔ ∃ k, Exhausted c rq (s k)) ∧
    (r.states = [.consumingPrimary, .done] ↔
      (∃ k, Filled rq (s k)) ∨ ∃ k, CutShort c rq (s k)) ∧
    (r.denied = none → .consumingFallback ∉ r.states → r.records.length = r.quota.toNat) ∧
    (r.denied = none → r.records.length < r.quota.toNat → .consumingFallback ∈ r.states) ∧
    (r.shortfall = true ↔ (r.records.length : Int) < p.minimumAcceptable.toInt) := by
  obtain ⟨quota, h⟩ := exists_check_of_ok hr
  obtain ⟨denied, hend, rfl⟩ := (assemble_eq_ok_iff h).1 hr
  intro s rq
  have hhalted : (s fuel).stage.isHalted = true := congrArg Stage.isHalted hend
  have hway : Way c sh rq env shuffler fuel denied (s fuel).states :=
    way_of_halted c sh rq env shuffler hend
  have hstates (l : List AssemblyState) :
      (resultOf p quota denied (s fuel)).states = l ++ [.done] ↔ (s fuel).states = l :=
    List.append_left_inj _
  have hfull (hnone : denied = none) (hnot : .consumingFallback ∉ (s fuel).states ++ [.done]) :
      (s fuel).records.length = quota.toNat := by
    generalize (s fuel).states = l at hway hnot
    cases hway with
    | refused hd => simp [hnone] at hd
    | filled hfilled hsame => exact (congrArg List.length hsame).trans hfilled.2
    | cut hd => simp [hnone] at hd
    | exhausted => simp at hnot
  refine ⟨?_, ?_, ?_, hfull, fun hnone hroom => ?_, decide_eq_true_iff⟩
  · refine (hstates []).trans ⟨fun hst => ?_, fun ⟨d, ha⟩ => states_of_refused hhalted ha⟩
    rw [hst] at hway
    cases hway with
    | refused _ ha => exact ⟨_, ha⟩
  · refine (hstates [.consumingPrimary, .consumingFallback]).trans
      ⟨fun hst => ?_, fun ⟨k, hk⟩ => ?_⟩
    · rw [hst] at hway
      cases hway with
      | exhausted hexhausted => exact ⟨_, hexhausted⟩
    · have hbegins := states_of_exhausted hhalted hk
      show (s fuel).states = _
      generalize hl : (s fuel).states = l at hway
      have hbegins' : [.consumingPrimary, .consumingFallback] <+: l := hl ▸ hbegins
      cases hway with
      | exhausted => rfl
      | _ => simp at hbegins'
  · refine (hstates [.consumingPrimary]).trans ⟨fun hst => ?_, ?_⟩
    · rw [hst] at hway
      cases hway with
      | filled hfilled => exact .inl ⟨_, hfilled⟩
      | cut _ hcut => exact .inr ⟨_, hcut⟩
    · rintro (⟨k, hk⟩ | ⟨k, hk⟩)
      · exact states_of_filled hhalted hk
      · exact states_of_cut hhalted hk
  · by_contra hnot
    exact hroom.ne (hfull hnone hnot)

/-- Ann's order of three turned to her groups. So her search had ended before, and as she was shown
fewer people than the policy asks for, her feed falls short. -/
theorem states_law_choir :
    ∃ r, (choirOutcome 3).result = .ok r ∧
      (∃ k, Exhausted choirWorld.collaborators
        ((⟨"ann", [], some (.int 3)⟩ : Order).request (.number 3) publicFieldNames)
        ((⟨"ann", [], some (.int 3)⟩ : Order).run choirWorld.collaborators .reverse publicFieldNames
          (.number 3) k (fun _ => .ok none) ())) ∧
      (r.records.length : Int) < Policy.standard.minimumAcceptable.toInt := by
  obtain ⟨-, hexhausted, -, -, -, hshort⟩ := states_law (p := .standard)
    (o := ⟨"ann", [], some (.int 3)⟩) choirWorld.collaborators .reverse publicFieldNames 40
    (fun _ => .ok none) () choirOutcome_three
  exact ⟨_, choirOutcome_three, hexhausted.1 rfl, hshort.1 rfl⟩

end

end PeopleFeed.Feed
