import PeopleFeed.Proofs.Feed.Transition

/-! Runs as repeated steps: what they keep, what only grows along them, and how they end. -/
namespace PeopleFeed.Feed

variable {σ τ : Type} {c : Collaborators σ} {sh : Shuffler τ} {rq : Request}
  {s t : State σ τ} {m n : Nat} {p : Policy} {quota : Count} {r : Result}

theorem step_of_halted {f : Option Fault} (hs : s.stage = .halted f) : step c sh rq s = s := by
  simp [step, hs]

theorem run_of_halted {f : Option Fault} (hs : s.stage = .halted f) (n : Nat) :
    run c sh rq n s = s := by
  cases n with
  | zero => rfl
  | succ n => simp [run, runTo, Stage.isHalted, hs]

theorem run_succ (n : Nat) (s : State σ τ) :
    run c sh rq (n + 1) s = run c sh rq n (step c sh rq s) := by
  cases hs : s.stage with
  | halted f => rw [step_of_halted hs, run_of_halted hs, run_of_halted hs]
  | _ => simp [run, runTo, Stage.isHalted, hs]

theorem run_add (m n : Nat) (s : State σ τ) :
    run c sh rq (m + n) s = run c sh rq n (run c sh rq m s) := by
  induction m generalizing s with
  | zero => rw [Nat.zero_add]; rfl
  | succ m ih => rw [Nat.succ_add, run_succ, run_succ, ih]

theorem run_succ_last (n : Nat) (s : State σ τ) :
    run c sh rq (n + 1) s = step c sh rq (run c sh rq n s) := by
  rw [run_add, run_succ]
  rfl

/-- Nothing comes of a run that has ended. -/
theorem eq_of_halted (h : Transition c sh rq s t) (hs : s.stage.isHalted = true) : t = s := by
  cases h with
  | rested => rfl
  | refused ho | passedOver ho | chosen ho => cases ho <;> simp_all [Stage.isHalted]
  | faulted hn =>
    unfold State.nextCall at hn
    split at hn <;> simp_all [Stage.isHalted]
  | met hst => rcases hst with hst | hst <;> simp_all [Stage.isHalted]
  | _ => simp_all [Stage.isHalted]

/-- What every transition keeps holds at every point of a run. -/
theorem run_induction {P : State σ τ → Prop}
    (hstep : ∀ s t, Transition c sh rq s t → P s → P t) (hs : P s) (n : Nat) :
    P (run c sh rq n s) := by
  induction n with
  | zero => exact hs
  | succ n ih =>
    rw [run_succ_last]
    exact hstep _ _ (transition_step c sh rq _) ih

/-- What the collaborators keep, whatever they are asked, a run keeps. -/
theorem env_transition {At : σ → Prop} (hquery : ∀ criteria env, At env → At (c.query criteria env))
    (hrespond : ∀ call env, At env → At (c.respond call env).env) (h : Transition c sh rq s t)
    (hs : At s.env) : At t.env := by
  have hasked (call : Call) : At (s.asked c call).env := hrespond call _ hs
  cases h with
  | connected => exact hquery _ _ (hasked _)
  | refused ho | passedOver ho | chosen ho =>
    cases ho with
    | stream => exact hasked _
    | pool => exact hs
  | listed =>
    unfold State.startGroups
    split <;> exact hasked _
  | rested | met | turned | drawn | finished => exact hs
  | _ => exact hasked _

/-- A run that has ended stays as it is. -/
theorem run_eq_of_halted {f : Option Fault} (hs : (run c sh rq m s).stage = .halted f)
    (hmn : m ≤ n) : run c sh rq n s = run c sh rq m s := by
  obtain ⟨k, rfl⟩ := Nat.exists_eq_add_of_le hmn
  rw [run_add, run_of_halted hs]

/-- A run that has not ended had not ended before. -/
theorem isHalted_of_le (hs : (run c sh rq m s).stage.isHalted = false) (hnm : n ≤ m) :
    (run c sh rq n s).stage.isHalted = false := by
  cases hst : (run c sh rq n s).stage with
  | halted f =>
    rw [run_eq_of_halted hst hnm, hst] at hs
    exact hs
  | _ => rfl

theorem live_of_transition (h : Transition c sh rq s t) (ht : t.stage.isHalted = false) :
    s.stage.isHalted = false := by
  cases hs : s.stage.isHalted with
  | false => rfl
  | true =>
    rw [eq_of_halted h hs, hs] at ht
    cases ht

/-- A run that has ended made one last step. -/
theorem exists_last_step (hs : s.stage.isHalted = false)
    (hn : (run c sh rq n s).stage.isHalted = true) :
    ∃ k < n, (run c sh rq k s).stage.isHalted = false ∧
      Transition c sh rq (run c sh rq k s) (run c sh rq n s) := by
  induction n with
  | zero =>
    have hzero : s.stage.isHalted = true := hn
    rw [hs] at hzero
    cases hzero
  | succ n ih =>
    have h := transition_step c sh rq (run c sh rq n s)
    rw [← run_succ_last] at h
    cases hlast : (run c sh rq n s).stage.isHalted with
    | false => exact ⟨n, Nat.lt_succ_self n, hlast, h⟩
    | true =>
      obtain ⟨k, hk, hlive, hstep⟩ := ih hlast
      rw [eq_of_halted h hlast]
      exact ⟨k, hk.trans (Nat.lt_succ_self n), hlive, hstep⟩

/-- A run leads from one state to another. -/
def Leads (c : Collaborators σ) (sh : Shuffler τ) (rq : Request) (s t : State σ τ) : Prop :=
  ∃ n, run c sh rq n s = t

theorem Leads.refl (s : State σ τ) : Leads c sh rq s s := ⟨0, rfl⟩

theorem Leads.trans {u : State σ τ} (h : Leads c sh rq s t) (h' : Leads c sh rq t u) :
    Leads c sh rq s u := by
  obtain ⟨m, rfl⟩ := h
  obtain ⟨n, rfl⟩ := h'
  exact ⟨m + n, run_add m n s⟩

/-- There is one state that a run ends in. -/
theorem Leads.eq_of_halted {f g : Option Fault} (h : Leads c sh rq s t) (ht : t.stage = .halted f)
    (hn : (run c sh rq n s).stage = .halted g) : run c sh rq n s = t := by
  obtain ⟨m, rfl⟩ := h
  rcases Nat.le_total m n with hmn | hnm
  · exact run_eq_of_halted ht hmn
  · exact (run_eq_of_halted hn hnm).symm

theorem Leads.of_step (h : step c sh rq s = t) : Leads c sh rq s t := ⟨1, by rw [run_succ, h]; rfl⟩

/-- What only grows along a run. -/
structure Extends (s t : State σ τ) : Prop where
  records : s.records <+: t.records
  calls : s.calls <+: t.calls
  states : s.states <+: t.states
  events : s.events <+: t.events

theorem Extends.refl (s : State σ τ) : Extends s s :=
  ⟨List.prefix_rfl, List.prefix_rfl, List.prefix_rfl, List.prefix_rfl⟩

theorem Extends.trans {u : State σ τ} (h : Extends s t) (h' : Extends t u) : Extends s u :=
  ⟨h.records.trans h'.records, h.calls.trans h'.calls, h.states.trans h'.states,
    h.events.trans h'.events⟩

theorem extends_transition (h : Transition c sh rq s t) : Extends s t := by
  have hoffer : ∀ {origin id base}, Offer c rq s origin id base → Extends s base := by
    intro origin id base ho
    cases ho with
    | stream => constructor <;> simp [State.asked]
    | pool => exact .refl s
  cases h with
  | refused ho | passedOver ho | chosen ho =>
    refine (hoffer ho).trans ?_
    constructor <;> simp [State.log, State.goto]
  | listed =>
    unfold State.startGroups
    split <;> constructor <;> simp [State.asked, State.goto, State.log]
  | _ =>
    constructor <;>
      simp [State.asked, State.goto, State.log, State.draw, State.finishPool]

theorem extends_run (c : Collaborators σ) (sh : Shuffler τ) (rq : Request) (n : Nat)
    (s : State σ τ) : Extends s (run c sh rq n s) :=
  run_induction (fun _ _ h hs => hs.trans (extends_transition h)) (.refl s) n

theorem extends_run_of_le (hmn : m ≤ n) :
    Extends (run c sh rq m s) (run c sh rq n s) := by
  obtain ⟨k, rfl⟩ := Nat.exists_eq_add_of_le hmn
  rw [run_add]
  exact extends_run ..

/-- The fault that a denial, if there is one, ends a run with. -/
def denialFault (denied : Option Denial) : Option Fault :=
  denied.map Fault.denial

/-- A run gives a feed exactly when it has ended, by a denial or without a fault. -/
theorem conclude_eq_ok_iff :
    conclude p quota s = .ok r ↔
      ∃ denied, s.stage = .halted (denialFault denied) ∧ r = resultOf p quota denied s := by
  constructor
  · intro h
    unfold conclude at h
    split at h <;> rename_i hs
    · exact ⟨none, hs, by cases h; rfl⟩
    · exact ⟨some _, hs, by cases h; rfl⟩
    all_goals cases h
  · rintro ⟨_ | d, hs, rfl⟩ <;> simp [denialFault] at hs <;> simp [conclude, hs]

theorem conclude_of_not_halted (hs : s.stage.isHalted = false) :
    conclude p quota s = .error .unfinished := by
  cases hst : s.stage with
  | halted f => simp [hst, Stage.isHalted] at hs
  | _ => simp [conclude, hst]

/-- The run of an order whose page size is accepted. -/
def Order.run (o : Order) (c : Collaborators σ) (sh : Shuffler τ) (fieldNames : List String)
    (quota : Count) (n : Nat) (env : σ) (shuffler : τ) : State σ τ :=
  Feed.run c sh (o.request quota fieldNames) n (.initial env shuffler o.requester)

variable {o : Order} {fieldNames : List String} {fuel : Nat} {env : σ} {shuffler : τ}

theorem result_assemble (h : o.check p = .ok quota) :
    (assemble c sh p fieldNames fuel o env shuffler).result =
      conclude p quota (o.run c sh fieldNames quota fuel env shuffler) := by
  simp [assemble, h, Order.run]

theorem calls_assemble (h : o.check p = .ok quota) :
    (assemble c sh p fieldNames fuel o env shuffler).calls =
      (o.run c sh fieldNames quota fuel env shuffler).calls := by
  simp [assemble, h, Order.run]

theorem exists_check_of_ok
    (h : (assemble c sh p fieldNames fuel o env shuffler).result = .ok r) :
    ∃ quota, o.check p = .ok quota := by
  cases hcheck : o.check p with
  | error b => simp [assemble, hcheck] at h
  | ok quota => exact ⟨quota, rfl⟩

/-- An order that is refused is so whoever the collaborators are. -/
theorem result_assemble_congr {σ' τ' : Type} {c' : Collaborators σ'} {sh' : Shuffler τ'}
    {env' : σ'} {shuffler' : τ'}
    (h : ∀ quota, o.check p = .ok quota →
      conclude p quota (o.run c sh fieldNames quota fuel env shuffler) =
        conclude p quota (o.run c' sh' fieldNames quota fuel env' shuffler')) :
    (assemble c sh p fieldNames fuel o env shuffler).result =
      (assemble c' sh' p fieldNames fuel o env' shuffler').result := by
  cases hcheck : o.check p with
  | error b => simp [assemble, hcheck]
  | ok quota => rw [result_assemble hcheck, result_assemble hcheck, h quota hcheck]

/-- The feed of an accepted order is that of the state in which its run has ended. -/
theorem assemble_eq_ok_iff (h : o.check p = .ok quota) :
    (assemble c sh p fieldNames fuel o env shuffler).result = .ok r ↔
      ∃ denied, (o.run c sh fieldNames quota fuel env shuffler).stage =
          .halted (denialFault denied) ∧
        r = resultOf p quota denied (o.run c sh fieldNames quota fuel env shuffler) := by
  rw [result_assemble h, conclude_eq_ok_iff]

/-- More steps make nothing else of a feed. -/
theorem assemble_of_le
    (hr : (assemble c sh p fieldNames m o env shuffler).result = .ok r) (hmn : m ≤ n) :
    assemble c sh p fieldNames n o env shuffler = assemble c sh p fieldNames m o env shuffler := by
  obtain ⟨quota, hcheck⟩ := exists_check_of_ok hr
  obtain ⟨denied, hend, -⟩ := (assemble_eq_ok_iff hcheck).1 hr
  have hrun : o.run c sh fieldNames quota n env shuffler =
      o.run c sh fieldNames quota m env shuffler := run_eq_of_halted hend hmn
  rw [Order.run] at hrun
  simp only [assemble, hcheck, hrun]
  rfl

end PeopleFeed.Feed
