import PeopleFeed.Proofs.Feed.Accounts
import PeopleFeed.Proofs.Feed.Termination

/-! The faults that come up in a run, and what becomes of each: a denial is contained, the failure
of a backend is told as one of the assembly, and anything else passes through. -/
namespace PeopleFeed.Feed

variable {σ τ : Type} {c : Collaborators σ} {sh : Shuffler τ} {rq : Request} {s t : State σ τ}
  {f g : Fault} {k n : Nat} {env : σ} {shuffler : τ} {p : Policy} {quota : Count} {o : Order}

/-- A fault comes up in the next step: a collaborator answers with it, a search result has no name
in its path, or the requester is nobody. -/
inductive Raises (c : Collaborators σ) (rq : Request) (s : State σ τ) : Fault → Prop
  | answered {call : Call} {f : Fault} (hn : s.nextCall rq = some call)
      (ha : (c.respond call s.env).answer = .error f) : Raises c rq s f
  | nameless {candidate : Search.Candidate} {path : Search.NamelessPath}
      (hs : s.stage = .pulling) (hq : s.ledger.size < rq.quota)
      (ha : (c.respond .pull s.env).answer = .ok (some candidate))
      (hid : candidate.entityId = .error path) : Raises c rq s (.breach (.namelessPath path))
  | nobody {found : Option Entity} (hs : s.stage = .resolving)
      (ha : (c.respond (.find (some rq.requester)) s.env).answer = .ok found)
      (hk : ¬ IsKind .profile found) :
      Raises c rq s (.breach (.requesterNotFound (some rq.requester)))

/-- The step in which a fault comes up makes its call and ends the run. -/
theorem step_of_raises (sh : Shuffler τ) (h : Raises c rq s f) :
    ∃ call, s.nextCall rq = some call ∧
      step c sh rq s = (s.asked c call).goto (.halted (some f)) := by
  cases h with
  | answered hn ha => exact ⟨_, hn, step_of_error hn ha⟩
  | nameless hs hq ha hid =>
    refine ⟨.pull, by simp [State.nextCall, hs, hq], ?_⟩
    simp only [step, hs, if_pos hq, State.ask_of_ok ha, State.screen, hid]
  | nobody hs ha hk =>
    refine ⟨.find (some rq.requester), by simp [State.nextCall, hs], ?_⟩
    simp only [step, hs, State.ask_of_ok ha]
    split
    · exact absurd ⟨_, rfl, rfl⟩ hk
    · rfl

/-- A run ends by a fault only in the step in which it comes up. -/
theorem raises_of_halted (h : Transition c sh rq s t) (hs : s.stage.isHalted = false)
    (hnamed : Named s) (ht : t.stage = .halted (some f)) : Raises c rq s f := by
  cases h with
  | rested hst => simp [hst, Stage.isHalted] at hs
  | faulted hn ha =>
    cases ht
    exact .answered hn ha
  | nameless hst hq ha hid =>
    cases ht
    exact .nameless hst hq ha hid
  | unresolved hst ha hk =>
    cases ht
    exact .nobody hst ha hk
  | refused ho => exact absurd rfl (ho.id_ne_empty hnamed)
  | @passedOver _ origin | @emitted origin | @skipped origin => cases origin <;> cases ht
  | listed =>
    unfold State.startGroups at ht
    split at ht <;> cases ht
  | _ => cases ht

theorem exists_raises (c : Collaborators σ) (sh : Shuffler τ) (rq : Request) (env : σ)
    (shuffler : τ)
    (hn : (run c sh rq n (.initial env shuffler rq.requester)).stage = .halted (some f)) :
    ∃ k < n, Raises c rq (run c sh rq k (.initial env shuffler rq.requester)) f := by
  have hhalted : (run c sh rq n (.initial env shuffler rq.requester)).stage.isHalted = true := by
    rw [hn]
    rfl
  obtain ⟨k, hk, hlive, h⟩ :=
    exists_last_step (s := .initial env shuffler rq.requester) rfl hhalted
  exact ⟨k, hk, raises_of_halted h hlive (named_run c sh rq env shuffler k) hn⟩

/-- Once a fault has come up, the run has ended by it. -/
theorem run_of_raises (h : Raises c rq (run c sh rq k s) f) (hk : k < n) :
    ∃ call, (run c sh rq k s).nextCall rq = some call ∧
      run c sh rq n s = ((run c sh rq k s).asked c call).goto (.halted (some f)) := by
  obtain ⟨call, hcall, hstep⟩ := step_of_raises sh h
  rw [← run_succ_last] at hstep
  exact ⟨call, hcall, (run_eq_of_halted (congrArg State.stage hstep) hk).trans hstep⟩

/-- At most one fault comes up in a run. -/
theorem raises_unique {j : Nat} (h : Raises c rq (run c sh rq j s) f)
    (h' : Raises c rq (run c sh rq k s) g) : j = k ∧ f = g := by
  have hle {i j : Nat} {f g : Fault} (h : Raises c rq (run c sh rq i s) f)
      (h' : Raises c rq (run c sh rq j s) g) : j ≤ i := by
    by_contra hlt
    obtain ⟨call, -, hrun⟩ := run_of_raises h (not_le.1 hlt)
    obtain ⟨call', hcall', -⟩ := step_of_raises sh h'
    rw [hrun] at hcall'
    cases hcall'
  obtain rfl : j = k := le_antisymm (hle h' h) (hle h h')
  obtain ⟨call, -, hrun⟩ := run_of_raises h (Nat.lt_succ_self j)
  obtain ⟨call', -, hrun'⟩ := run_of_raises h' (Nat.lt_succ_self j)
  have hstage := congrArg State.stage (hrun.symm.trans hrun')
  cases hstage
  exact ⟨rfl, rfl⟩

section

variable {fieldNames : List String} {fuel : Nat}

/-- The counters of what becomes of runs stay as they are, whatever they stand at. -/
def LeavesEnds (events : List Event) : Prop :=
  ∀ m : Metrics, (m.recordAll events).failures = m.failures ∧
    (m.recordAll events).denied = m.denied ∧ (m.recordAll events).shortfalls = m.shortfalls

/-- What follows for an order from a fault that comes up in its run, when so much has been found. -/
def Follows (o : Order) (found : List Record) (out : Outcome σ τ) : Fault → Prop
  | .denial d => ∃ r, out.result = .ok r ∧ r.denied = some d ∧ r.records = found
  | .outage x =>
    ∃ e, out.result = .error e ∧ e = .failed o.requester x ∧
      e.message = s!"Feed assembly failed for {o.requester}: {x.message}" ∧
      ∀ m : Metrics, (m.recordAll out.events).failures = m.failures + 1
  | .breach b => out.result = .error (.raised (.breach b)) ∧ LeavesEnds out.events
  | .surprise e => out.result = .error (.raised (.surprise e)) ∧ LeavesEnds out.events

namespace Assembly

variable {a : Assembly}

/-- What passes through an assembly leaves no other trace. -/
theorem leavesEnds_of_raised (h : a.outcome.result = .error (.raised f)) :
    LeavesEnds a.outcome.events := by
  have hfailed : a.entered.failures = 0 := by
    rw [failures_entered, isFailed, h]
    rfl
  have hdenied : a.entered.denied = 0 := by
    rw [denied_entered, isDenied, h]
    rfl
  have hshort : a.entered.shortfalls = 0 := by
    rw [shortfalls_entered, isShort, h]
    rfl
  intro m
  refine ⟨?_, ?_, ?_⟩
  · exact (Metrics.additive_failures.recordAll ..).trans (congrArg (m.failures + ·) hfailed)
  · exact (Metrics.additive_denied.recordAll ..).trans (congrArg (m.denied + ·) hdenied)
  · exact (Metrics.additive_shortfalls.recordAll ..).trans (congrArg (m.shortfalls + ·) hshort)

end Assembly

/-- A run that has ended by a fault is told according to the kind of the fault. -/
theorem follows_of_halted (h : o.check p = .ok quota)
    (hend : (o.run c sh fieldNames quota fuel env shuffler).stage = .halted (some f)) :
    Follows o (o.run c sh fieldNames quota fuel env shuffler).records
      (assemble c sh p fieldNames fuel o env shuffler) f := by
  let a : Assembly := ⟨c, sh, p, fieldNames, fuel, o, env, shuffler⟩
  have hresult : (assemble c sh p fieldNames fuel o env shuffler).result =
      conclude p quota (o.run c sh fieldNames quota fuel env shuffler) := result_assemble h
  have hrequester :
      (o.run c sh fieldNames quota fuel env shuffler).ledger.requester = o.requester :=
    (sound_run c sh (o.request quota fieldNames) env shuffler fuel).requester
  cases f with
  | denial d => exact ⟨_, (assemble_eq_ok_iff h).2 ⟨some d, hend, rfl⟩, rfl, rfl⟩
  | outage x =>
    simp only [conclude, hend, hrequester] at hresult
    refine ⟨_, hresult, rfl, rfl, fun m => ?_⟩
    have hfailed : a.entered.failures = 1 := by
      rw [failures_entered, Assembly.isFailed]
      exact congrArg (fun result => (isFailure result).toNat) hresult
    exact (Metrics.additive_failures.recordAll ..).trans (congrArg (m.failures + ·) hfailed)
  | breach | surprise =>
    simp only [conclude, hend] at hresult
    exact ⟨hresult, Assembly.leavesEnds_of_raised (a := a) hresult⟩

/-- A breach of the contract or a surprise passes through an assembly just if it comes up in the
run. -/
theorem result_eq_raised_iff (h : o.check p = .ok quota)
    (hf : (∃ b, f = .breach b) ∨ ∃ e, f = .surprise e) :
    (assemble c sh p fieldNames fuel o env shuffler).result = .error (.raised f) ↔
      ∃ k < fuel, Raises c (o.request quota fieldNames)
        (o.run c sh fieldNames quota k env shuffler) f := by
  constructor
  · intro hraised
    rw [result_assemble h] at hraised
    apply exists_raises
    unfold conclude at hraised
    split at hraised
    case h_4 _ _ _ _ hstage =>
      cases hraised
      exact hstage
    all_goals cases hraised
  · rintro ⟨k, hk, hraises⟩
    obtain ⟨call, -, hrun⟩ := run_of_raises hraises hk
    have hfollows := follows_of_halted h (congrArg State.stage hrun)
    rcases hf with ⟨b, rfl⟩ | ⟨e, rfl⟩
    · exact hfollows.1
    · exact hfollows.1

/-- If no fault comes up in the run of an order, a feed comes of it, unless the stream never ends.
At most one fault comes up. No call is made after it; a denial ends the feed with what was found,
the failure of a backend is counted and told as one of the assembly, and anything else passes
through and is not counted. -/
theorem assemble_boundary (c : Collaborators σ) (sh : Shuffler τ) (fieldNames : List String)
    (env : σ) (shuffler : τ) (h : o.check p = .ok quota) :
    let s k := o.run c sh fieldNames quota k env shuffler
    let rq := o.request quota fieldNames
    ((∀ k f, ¬ Raises c rq (s k) f) →
      (∃ N r, r.denied = none ∧ ∀ fuel ≥ N,
        (assemble c sh p fieldNames fuel o env shuffler).result = .ok r) ∨
      ∀ m, ∃ k, m ≤ itemsIn (o.exchanges c sh fieldNames quota k env shuffler)) ∧
    (∀ j k f g, Raises c rq (s j) f → Raises c rq (s k) g → j = k ∧ f = g) ∧
    ∀ k f, Raises c rq (s k) f → ∀ fuel > k,
      (assemble c sh p fieldNames fuel o env shuffler).calls =
        (s k).calls ++ ((s k).nextCall rq).toList ∧
      Follows o (s k).records (assemble c sh p fieldNames fuel o env shuffler) f := by
  intro s rq
  refine ⟨fun hcalm => ?_, fun j k f g => raises_unique, fun k f hraises fuel hk => ?_⟩
  · refine (halts_or_endless c sh rq (.initial env shuffler o.requester)).imp_left ?_
    rintro ⟨N, hN⟩
    -- Had the run ended by a fault, the fault would have come up.
    have hend : (s N).stage = .halted none := by
      cases hst : (s N).stage with
      | halted f =>
        cases f with
        | none => rfl
        | some f =>
          obtain ⟨k, -, hraises⟩ := exists_raises c sh rq env shuffler hst
          exact absurd hraises (hcalm k f)
      | _ =>
        have hhalted : (s N).stage.isHalted = true := hN
        simp [hst, Stage.isHalted] at hhalted
    refine ⟨N, resultOf p quota none (s N), rfl, fun fuel hfuel => ?_⟩
    have hrun : o.run c sh fieldNames quota fuel env shuffler = s N := run_eq_of_halted hend hfuel
    exact (assemble_eq_ok_iff h).2 ⟨none, hrun ▸ hend, by rw [hrun]⟩
  · obtain ⟨call, hcall, hrun⟩ := run_of_raises hraises hk
    have hrun' : o.run c sh fieldNames quota fuel env shuffler =
        ((s k).asked c call).goto (.halted (some f)) := hrun
    have hcall' : (s k).nextCall rq = some call := hcall
    constructor
    · rw [calls_assemble h, hrun', hcall']
      rfl
    · have hfollows := follows_of_halted h (congrArg State.stage hrun')
      rw [hrun'] at hfollows
      exact hfollows

/-- The choir, where nobody can tell who sings in it. -/
def silentChoir : World where
  stream := choirWorld.stream
  answer
    | .principals _ => .error (.outage (.reported "down"))
    | call => choirWorld.answer call

/-- Ann's groups cannot be listed. Her order fails with the last call, and the failure counts. -/
theorem assemble_boundary_silentChoir :
    (⟨"ann", [], some (.int 3)⟩ : Order).check .standard = .ok (.number 3) ∧
      ∃ out : Outcome Ahead Unit,
        out = assemble silentChoir.collaborators .reverse .standard publicFieldNames 40
          ⟨"ann", [], some (.int 3)⟩ (fun _ => .ok none) () ∧
        out.calls.getLast? = some (.principals "ann") ∧
        out.result = .error (.failed "ann" (.reported "down")) ∧
        (Metrics.zero.recordAll out.events).failures = 1 := by
  obtain ⟨-, -, hboundary⟩ := assemble_boundary silentChoir.collaborators .reverse
    publicFieldNames (fun _ => .ok none) () check_three
  have hcall : ((⟨"ann", [], some (.int 3)⟩ : Order).run silentChoir.collaborators .reverse
      publicFieldNames (.number 3) 12 (fun _ => .ok none) ()).nextCall
        ((⟨"ann", [], some (.int 3)⟩ : Order).request (.number 3) publicFieldNames) =
      some (.principals "ann") := by
    cbv
  have hraises := Raises.answered (c := silentChoir.collaborators) hcall rfl
  obtain ⟨hcalls, e, hresult, rfl, -, hfailures⟩ := hboundary 12 _ hraises 40 (by decide)
  refine ⟨check_three, _, rfl, ?_, hresult, hfailures .zero⟩
  rw [hcalls]
  cbv

end

end PeopleFeed.Feed
