import PeopleFeed.Proofs.Feed.Bookkeeping

/-! The counters after any number of assemblies. They account for each of them, however it ended:
runs by how they began and ended, records and search results one by one. -/
namespace PeopleFeed.Feed

variable {σ τ : Type} {p : Policy} {quota : Count} {s : State σ τ} {f g : Metrics → Nat}

/-- Whether what became of an order is a feed of some kind. -/
def isFeed (kind : Result → Bool) (result : Except AssemblyError Result) : Bool :=
  result.toOption.any kind

/-- Whether a failing backend left no feed. -/
def isFailure : Except AssemblyError Result → Bool
  | .error (.failed ..) => true
  | _ => false

/-- A feed that somebody asks for, and all that it is assembled by. -/
structure Assembly where
  {σ τ : Type}
  collaborators : Collaborators σ
  sh : Shuffler τ
  policy : Policy
  fieldNames : List String
  fuel : Nat
  order : Order
  env : σ
  shuffler : τ

namespace Assembly

def outcome (a : Assembly) : Outcome a.σ a.τ :=
  assemble a.collaborators a.sh a.policy a.fieldNames a.fuel a.order a.env a.shuffler

/-- Whether the order kept to the contract, so that a run was made. -/
def isAccepted (a : Assembly) : Bool :=
  (a.order.check a.policy).isOk

/-- Whether there is a feed that a denial cut short. -/
def isDenied (a : Assembly) : Bool :=
  isFeed (·.denied.isSome) a.outcome.result

/-- Whether there is a feed with too few records. -/
def isShort (a : Assembly) : Bool :=
  isFeed (·.shortfall) a.outcome.result

def isFailed (a : Assembly) : Bool :=
  isFailure a.outcome.result

/-- The run that was made of an order with such a page size. -/
def run (a : Assembly) (quota : Count) : State a.σ a.τ :=
  a.order.run a.collaborators a.sh a.fieldNames quota a.fuel a.env a.shuffler

/-- Its exchanges with the collaborators. -/
def exchanges (a : Assembly) (quota : Count) : List Exchange :=
  a.order.exchanges a.collaborators a.sh a.fieldNames quota a.fuel a.env a.shuffler

/-- The records found on its stream. -/
def found (a : Assembly) (quota : Count) : List Record :=
  (consumed a.collaborators a.sh (a.order.request quota a.fieldNames) a.fuel
    (.initial a.env a.shuffler a.order.requester)).records

/-- What the events add to counters at zero. -/
def entered (a : Assembly) : Metrics :=
  .recordAll .zero a.outcome.events

end Assembly

/-- What the counters stand at after some assemblies, one after the other. -/
def accounts (as : List Assembly) : Metrics :=
  as.foldl (fun m a => m.recordAll a.outcome.events) .zero

theorem accounts_append (as : List Assembly) (a : Assembly) :
    accounts (as ++ [a]) = (accounts as).recordAll a.outcome.events := by
  simp [accounts]

/-- All events count, in the order in which they happened. -/
theorem accounts_eq_recordAll (as : List Assembly) :
    accounts as = .recordAll .zero (as.flatMap (·.outcome.events)) := by
  induction as using List.reverseRecOn with
  | nil => rfl
  | append_singleton as a ih =>
    rw [accounts_append, ih, ← Metrics.recordAll_append, List.flatMap_append,
      List.flatMap_singleton]

namespace Metrics.Additive

theorem accounts_append (hf : Additive f) (as : List Assembly) (a : Assembly) :
    f (accounts (as ++ [a])) = f (accounts as) + f a.entered := by
  rw [Feed.accounts_append]
  exact hf.recordAll ..

/-- What every assembly adds at most once is counted by how many of them do. -/
theorem accounts_eq_countP (hf : Additive f) {q : Assembly → Bool}
    (h : ∀ a, f a.entered = (q a).toNat) (as : List Assembly) :
    f (accounts as) = as.countP q := by
  induction as using List.reverseRecOn with
  | nil => exact hf.zero
  | append_singleton as a ih =>
    rw [hf.accounts_append, ih, h a, List.countP_append]
    cases hq : q a <;> simp [hq]

theorem accounts_le (hf : Additive f) (hg : Additive g)
    (h : ∀ a : Assembly, f a.entered ≤ g a.entered) (as : List Assembly) :
    f (accounts as) ≤ g (accounts as) := by
  induction as using List.reverseRecOn with
  | nil => exact (hf.zero.trans hg.zero.symm).le
  | append_singleton as a ih =>
    rw [hf.accounts_append, hg.accounts_append]
    exact Nat.add_le_add ih (h a)

end Metrics.Additive

/-- What the end of an assembly adds to the counters. -/
def ending (result : Except AssemblyError Result) : Metrics :=
  { Metrics.zero with
    denied := (isFeed (·.denied.isSome) result).toNat
    shortfalls := (isFeed (·.shortfall) result).toNat
    failures := (isFailure result).toNat }

theorem recordAll_closingEvents (p : Policy) (quota : Count) (s : State σ τ) :
    Metrics.zero.recordAll (closingEvents p quota s) = ending (conclude p quota s) := by
  simp only [closingEvents, conclude]
  cases s.stage with
  | halted f =>
    rcases f with _ | b | d | o | e
    · cases h : (resultOf p quota none s).shortfall <;>
        simp only [ending, isFeed, Except.toOption, Option.any, h, Bool.false_eq_true, if_true,
          if_false] <;> rfl
    · rfl
    · cases h : (resultOf p quota (some d) s).shortfall <;>
        simp only [ending, isFeed, Except.toOption, Option.any, h, Bool.false_eq_true, if_true,
          if_false] <;> rfl
    · rfl
    · rfl
  | _ => rfl

namespace Assembly

variable {a : Assembly}

theorem isAccepted_of_check (h : a.order.check a.policy = .ok quota) : a.isAccepted = true := by
  rw [isAccepted, h]
  rfl

theorem isAccepted_of_error {b : Breach} (h : a.order.check a.policy = .error b) :
    a.isAccepted = false := by
  rw [isAccepted, h]
  rfl

theorem result_of_check (h : a.order.check a.policy = .ok quota) :
    a.outcome.result = conclude a.policy quota (a.run quota) :=
  result_assemble h

theorem result_of_error {b : Breach} (h : a.order.check a.policy = .error b) :
    a.outcome.result = .error (.raised (.breach b)) := by
  simp [outcome, assemble, h]

theorem events_of_check (h : a.order.check a.policy = .ok quota) :
    a.outcome.events =
      [.started] ++ (a.run quota).events ++ closingEvents a.policy quota (a.run quota) := by
  simp [outcome, run, assemble, h, Order.run]

/-- An order that is refused leaves the counters alone. -/
theorem entered_of_error {b : Breach} (h : a.order.check a.policy = .error b) :
    a.entered = .zero := by
  simp [entered, outcome, assemble, h, Metrics.recordAll]

theorem booked (a : Assembly) (quota : Count) : Booked (a.run quota) :=
  booked_run a.collaborators a.sh (a.order.request quota a.fieldNames) a.env a.shuffler a.fuel

end Assembly

namespace Metrics.Additive

variable {a : Assembly}

/-- The counters tell of the beginning of a run, of the run and of its end. -/
theorem entered (hf : Additive f) (h : a.order.check a.policy = .ok quota) :
    f a.entered =
      f (Metrics.zero.record .started) + f (a.run quota).counters +
        f (ending a.outcome.result) := by
  rw [Assembly.entered, Assembly.events_of_check h, recordAll_append, hf.recordAll,
    recordAll_closingEvents, ← Assembly.result_of_check h, recordAll_append, hf.recordAll]
  rfl

/-- What a run leaves alone is counted at its beginning and its end only. -/
theorem entered_around (hf : Additive f) (hle : ∀ m : Metrics, f m ≤ m.around) (a : Assembly) :
    f a.entered = (if a.isAccepted then f (Metrics.zero.record .started) else 0) +
      f (ending a.outcome.result) := by
  cases hcheck : a.order.check a.policy with
  | error b =>
    have hend : ending a.outcome.result = .zero := by
      rw [Assembly.result_of_error hcheck]
      rfl
    rw [Assembly.entered_of_error hcheck, Assembly.isAccepted_of_error hcheck, hend, hf.zero]
    rfl
  | ok quota =>
    have hrun : f (a.run quota).counters = 0 :=
      Nat.le_zero.1 ((hle _).trans (a.booked quota).around.le)
    rw [hf.entered hcheck, hrun, Assembly.isAccepted_of_check hcheck, if_pos rfl, Nat.add_zero]

/-- What the end of a run alone counts. -/
theorem entered_ending (hf : Additive f) (hle : ∀ m : Metrics, f m ≤ m.around)
    (hstart : f (Metrics.zero.record .started) = 0) (a : Assembly) :
    f a.entered = f (ending a.outcome.result) := by
  rw [hf.entered_around hle, hstart, ite_self, Nat.zero_add]

/-- What neither the beginning nor the end of a run counts is counted by the run alone. -/
theorem entered_within (hf : Additive f) (hstart : f (Metrics.zero.record .started) = 0)
    (hend : f (ending a.outcome.result) = 0) (h : a.order.check a.policy = .ok quota) :
    f a.entered = f (a.run quota).counters := by
  rw [hf.entered h, hstart, hend, Nat.zero_add, Nat.add_zero]

end Metrics.Additive

theorem runs_entered (a : Assembly) : a.entered.runs = a.isAccepted.toNat := by
  have hle (m : Metrics) : m.runs ≤ m.around := by
    simp only [Metrics.around]
    omega
  rw [Metrics.additive_runs.entered_around hle]
  cases a.isAccepted <;> rfl

theorem denied_entered (a : Assembly) : a.entered.denied = a.isDenied.toNat := by
  have hle (m : Metrics) : m.denied ≤ m.around := by
    simp only [Metrics.around]
    omega
  exact Metrics.additive_denied.entered_ending hle rfl a

theorem shortfalls_entered (a : Assembly) : a.entered.shortfalls = a.isShort.toNat := by
  have hle (m : Metrics) : m.shortfalls ≤ m.around := by
    simp only [Metrics.around]
    omega
  exact Metrics.additive_shortfalls.entered_ending hle rfl a

theorem failures_entered (a : Assembly) : a.entered.failures = a.isFailed.toNat := by
  have hle (m : Metrics) : m.failures ≤ m.around := by
    simp only [Metrics.around]
    omega
  exact Metrics.additive_failures.entered_ending hle rfl a

/-- Only a run that was made ends, and it ends in one way: with a feed or by a failing backend. -/
theorem ended_le_accepted (kind : Result → Bool) (a : Assembly) :
    (isFeed kind a.outcome.result).toNat + a.isFailed.toNat ≤ a.isAccepted.toNat := by
  cases hcheck : a.order.check a.policy with
  | error b =>
    rw [Assembly.isFailed, Assembly.result_of_error hcheck]
    exact Nat.zero_le _
  | ok quota =>
    rw [Assembly.isAccepted_of_check hcheck, Assembly.isFailed]
    rcases a.outcome.result with (_ | _ | _) | r
    · exact le_rfl
    · exact Nat.zero_le _
    · exact Nat.zero_le _
    · exact Bool.toNat_le _

theorem emitted_entered {a : Assembly} (h : a.order.check a.policy = .ok quota) :
    a.entered.emitted = (a.run quota).records.length := by
  rw [Metrics.additive_emitted.entered_within rfl rfl h]
  exact (a.booked quota).emitted

theorem considered_entered {a : Assembly} (h : a.order.check a.policy = .ok quota) :
    a.entered.considered = (a.run quota).counters.considered :=
  Metrics.additive_considered.entered_within rfl rfl h

theorem emitted_le_considered (a : Assembly) : a.entered.emitted ≤ a.entered.considered := by
  cases hcheck : a.order.check a.policy with
  | error b =>
    rw [Assembly.entered_of_error hcheck]
    exact le_rfl
  | ok quota =>
    have hbooked := a.booked quota
    rw [emitted_entered hcheck, considered_entered hcheck, ← hbooked.emitted]
    exact le_of_add_le_left hbooked.considered

theorem consideredIn_closingEvents (phase : Phase) (p : Policy) (quota : Count) (s : State σ τ) :
    consideredIn phase (closingEvents p quota s) = 0 := by
  simp only [closingEvents]
  split
  · split <;> rfl
  · split <;> rfl
  · rfl
  · rfl

theorem consideredIn_outcome {a : Assembly} (phase : Phase)
    (h : a.order.check a.policy = .ok quota) :
    consideredIn phase a.outcome.events = consideredIn phase (a.run quota).events := by
  have hstarted : consideredIn phase [.started] = 0 := rfl
  rw [Assembly.events_of_check h, consideredIn_append, consideredIn_append,
    consideredIn_closingEvents, hstarted, Nat.zero_add, Nat.add_zero]

/-- The counters stand for the assemblies that were made. -/
structure Balanced (as : List Assembly) (m : Metrics) : Prop where
  runs : m.runs = as.countP (·.isAccepted)
  denied : m.denied = as.countP (·.isDenied)
  shortfalls : m.shortfalls = as.countP (·.isShort)
  failures : m.failures = as.countP (·.isFailed)
  shortfalls_le : m.shortfalls + m.failures ≤ m.runs
  denied_le : m.denied + m.failures ≤ m.runs
  byPhase : m.byPhase.total = m.emitted
  emitted_le : m.emitted ≤ m.considered

/-- The counters before and after an assembly differ by what it did: by its records, those found on
the stream and those drawn, by whom it considered, and by the search results that it took off the
stream. -/
structure Accounted (a : Assembly) (quota : Count) (r : Result) (m m' : Metrics) : Prop where
  begins : a.found quota <+: r.records
  emitted : m'.emitted = m.emitted + r.records.length
  primary : m'.byPhase.countOf Phase.primary.name =
    m.byPhase.countOf Phase.primary.name + (a.found quota).length
  fallback : m'.byPhase.countOf Phase.fallback.name =
    m.byPhase.countOf Phase.fallback.name + (r.records.length - (a.found quota).length)
  considered : m'.considered = m.considered +
    (consideredIn .primary a.outcome.events + consideredIn .fallback a.outcome.events)
  items : m'.unrecognized.total + consideredIn .primary a.outcome.events =
    m.unrecognized.total + itemsIn (a.exchanges quota)

theorem balanced_accounts (as : List Assembly) : Balanced as (accounts as) where
  runs := Metrics.additive_runs.accounts_eq_countP runs_entered as
  denied := Metrics.additive_denied.accounts_eq_countP denied_entered as
  shortfalls := Metrics.additive_shortfalls.accounts_eq_countP shortfalls_entered as
  failures := Metrics.additive_failures.accounts_eq_countP failures_entered as
  shortfalls_le := by
    refine (Metrics.additive_shortfalls.add Metrics.additive_failures).accounts_le
      Metrics.additive_runs (fun a => ?_) as
    rw [shortfalls_entered, failures_entered, runs_entered]
    exact ended_le_accepted _ a
  denied_le := by
    refine (Metrics.additive_denied.add Metrics.additive_failures).accounts_le
      Metrics.additive_runs (fun a => ?_) as
    rw [denied_entered, failures_entered, runs_entered]
    exact ended_le_accepted _ a
  byPhase := by
    rw [accounts_eq_recordAll]
    exact Metrics.byPhase_total_recordAll _
  emitted_le :=
    Metrics.additive_emitted.accounts_le Metrics.additive_considered emitted_le_considered as

theorem accounted_of_ok {a : Assembly} {r : Result} (as : List Assembly)
    (h : a.order.check a.policy = .ok quota) (hr : a.outcome.result = .ok r) :
    Accounted a quota r (accounts as) (accounts (as ++ [a])) := by
  obtain ⟨denied, hend, rfl⟩ := (assemble_eq_ok_iff h).1 hr
  have htallied : Tallied (a.found quota) (a.run quota) := tallied_consumed ..
  have hst : (a.run quota).stage.isBreached = false := by
    rw [Assembly.run, hend]
    cases denied <;> rfl
  have hitems : (a.run quota).counters.unrecognized.total +
      consideredIn .primary (a.run quota).events = itemsIn (a.exchanges quota) :=
    items_run a.collaborators a.sh (a.order.request quota a.fieldNames) a.env a.shuffler a.fuel hst
  constructor
  · exact htallied.begins
  · rw [Metrics.additive_emitted.accounts_append, emitted_entered h]
    rfl
  · rw [(Metrics.additive_byPhase_countOf _).accounts_append,
      (Metrics.additive_byPhase_countOf _).entered_within rfl rfl h, htallied.countOf.1]
  · rw [(Metrics.additive_byPhase_countOf _).accounts_append,
      (Metrics.additive_byPhase_countOf _).entered_within rfl rfl h, htallied.countOf.2]
    rfl
  · rw [Metrics.additive_considered.accounts_append, considered_entered h, (a.booked quota).phases,
      consideredIn_outcome .primary h, consideredIn_outcome .fallback h]
  · rw [Metrics.additive_unrecognized_total.accounts_append,
      Metrics.additive_unrecognized_total.entered_within rfl rfl h,
      consideredIn_outcome .primary h, Nat.add_assoc, hitems]

/-- However many feeds are assembled, and however they end, the counters stand for them: for the
runs that were made, the feeds that were cut short or fell short, the failures, and the records by
phase. The next feed that comes of an order adds its records, and each search result that it took
off the stream once. -/
theorem accounts_balance (as : List Assembly) :
    Balanced as (accounts as) ∧
      ∀ a r, a.outcome.result = .ok r → ∃ quota, a.order.check a.policy = .ok quota ∧
        Accounted a quota r (accounts as) (accounts (as ++ [a])) := by
  refine ⟨balanced_accounts as, fun a r hr => ?_⟩
  obtain ⟨quota, h⟩ := exists_check_of_ok hr
  exact ⟨quota, h, accounted_of_ok as h hr⟩

/-- An order of Ann's for so many people, taken by the choir. -/
def choirAssembly (n : Int) : Assembly where
  collaborators := choirWorld.collaborators
  sh := .reverse
  policy := .standard
  fieldNames := publicFieldNames
  fuel := 40
  order := ⟨"ann", [], some (.int n)⟩
  env := fun _ => .ok none
  shuffler := ()

theorem accounts_choirAssembly_zero : accounts [choirAssembly 0] = .zero := by
  cbv

theorem found_choirAssembly : ((choirAssembly 3).found (.number 3)).length = 1 := by
  cbv

/-- An order of nobody is refused and leaves no trace. Of an order of three one record is found on
the stream and two are drawn. -/
theorem accounts_balance_choir :
    (choirAssembly 3).outcome.result = (choirOutcome 3).result ∧
      Balanced [choirAssembly 0] .zero ∧
      (accounts [choirAssembly 0, choirAssembly 3]).emitted = 3 ∧
      (accounts [choirAssembly 0, choirAssembly 3]).byPhase.countOf Phase.primary.name = 1 ∧
      (accounts [choirAssembly 0, choirAssembly 3]).byPhase.countOf Phase.fallback.name = 2 := by
  obtain ⟨hbalanced, hnext⟩ := accounts_balance [choirAssembly 0]
  obtain ⟨quota, hcheck, haccounted⟩ := hnext (choirAssembly 3) _ choirOutcome_three
  obtain rfl : Count.number 3 = quota := Except.ok.inj (check_three.symm.trans hcheck)
  have hemitted := haccounted.emitted
  have hprimary := haccounted.primary
  have hfallback := haccounted.fallback
  rw [accounts_choirAssembly_zero] at hbalanced hemitted hprimary hfallback
  rw [found_choirAssembly] at hprimary hfallback
  exact ⟨rfl, hbalanced, hemitted, hprimary, hfallback⟩

end PeopleFeed.Feed
