import PeopleFeed.Proofs.Feed.Safety

/-! A denial in the place of any call cuts a feed down to what was collected before that call. -/
namespace PeopleFeed.Feed

variable {σ τ : Type} {c : Collaborators σ} {sh : Shuffler τ} {rq : Request}
  {s t : State σ τ} {call : Call} {n : Nat} {d : Denial}

/-- A step makes its next call and no other. -/
theorem calls_step (c : Collaborators σ) (sh : Shuffler τ) (rq : Request) (s : State σ τ) :
    (step c sh rq s).calls = s.calls ++ (s.nextCall rq).toList := by
  have h := transition_step c sh rq s
  generalize step c sh rq s = t at h
  cases h with
  | faulted hn => simp [State.asked, State.goto, hn]
  | refused ho | passedOver ho | chosen ho =>
    cases ho <;> simp_all [State.asked, State.goto, State.log, State.nextCall]
  | met hs hq =>
    have hq' : ¬ s.ledger.size < rq.quota := by omega
    rcases hs with hs | hs <;> simp [State.goto, State.nextCall, hs, hq']
  | @drawn todo hs hq =>
    cases todo with
    | nil => simp [State.draw, State.nextCall, hs]
    | cons principal todo =>
      have hq' : ¬ s.ledger.size < rq.quota := by simpa using hq
      simp [State.draw, State.nextCall, hs, hq']
  | listed hs =>
    unfold State.startGroups
    split <;> simp [State.asked, State.goto, State.log, State.nextCall, hs]
  | _ => simp_all [State.asked, State.goto, State.log, State.nextCall, State.finishPool]

/-- The collaborators as before, except that their `n`-th call is denied. They count the calls. -/
def Collaborators.denying (c : Collaborators σ) (n : Nat) (d : Denial) :
    Collaborators (Nat × σ) where
  query criteria env := (env.1, c.query criteria env.2)
  respond call env :=
    if env.1 + 1 = n then ⟨.error (.denial d), [], (env.1 + 1, env.2)⟩
    else
      let reply := c.respond call env.2
      ⟨reply.answer, reply.notes, (env.1 + 1, reply.env)⟩

namespace State

/-- The run with collaborators that have counted its calls. -/
def counted (s : State σ τ) : State (Nat × σ) τ :=
  { s with env := (s.calls.length, s.env) }

theorem counted_goto (s : State σ τ) (stage : Stage) :
    (s.goto stage).counted = s.counted.goto stage := rfl

theorem counted_consider (s : State σ τ) (origin : Origin) (id : String) :
    (s.consider origin id).counted = s.counted.consider origin id := by
  unfold consider
  split <;> rfl

theorem counted_screen (s : State σ τ) (candidate : Search.Candidate) :
    (s.screen candidate).counted = s.counted.screen candidate := by
  unfold screen
  split
  · rfl
  · rfl
  · exact counted_consider ..

theorem counted_settle (s : State σ τ) (fieldNames : List String) (phase : Phase) (id : String)
    (found : Option Entity) :
    (s.settle fieldNames phase id found).counted =
      s.counted.settle fieldNames phase id found := by
  unfold settle
  split <;> rfl

theorem counted_startGroups (sh : Shuffler τ) (requester : String) (s : State σ τ)
    (principals : List (Option String)) :
    (s.startGroups sh requester principals).counted =
      s.counted.startGroups sh requester principals := by
  unfold startGroups
  split <;> rfl

/-- A call that is not the denied one is answered as before. -/
theorem answer_counted (call : Call) (hn : s.calls.length + 1 ≠ n) :
    ((c.denying n d).respond call s.counted.env).answer = (c.respond call s.env).answer := by
  simp [counted, Collaborators.denying, hn]

theorem counted_asked (call : Call) (hn : s.calls.length + 1 ≠ n) :
    (s.asked c call).counted = s.counted.asked (c.denying n d) call := by
  simp [counted, asked, Collaborators.denying, hn]

theorem counted_ask {next : call.Answer → State σ τ → State σ τ}
    {next' : call.Answer → State (Nat × σ) τ → State (Nat × σ) τ}
    (hn : s.calls.length + 1 ≠ n)
    (h : ∀ a u, (next a u).counted = next' a u.counted) :
    (s.ask c call next).counted = s.counted.ask (c.denying n d) call next' := by
  have hanswer := answer_counted (c := c) (d := d) call hn
  cases ha : (c.respond call s.env).answer with
  | ok a => rw [ask_of_ok ha, ask_of_ok (hanswer.trans ha), h, counted_asked call hn]
  | error f =>
    rw [ask_of_error ha, ask_of_error (hanswer.trans ha), counted_goto, counted_asked call hn]

end State

open State in
/-- Up to the denied call the two runs go on alike. -/
theorem counted_step (hn : ∀ call, s.nextCall rq = some call → s.calls.length + 1 ≠ n) :
    (step c sh rq s).counted = step (c.denying n d) sh rq s.counted := by
  have hstage : s.counted.stage = s.stage := rfl
  have hledger : s.counted.ledger = s.ledger := rfl
  cases hs : s.stage with
  | connecting =>
    have hne := hn (.connected rq.requester) (by simp [nextCall, hs])
    simp only [step, hstage, hs]
    exact counted_ask hne fun a u => rfl
  | pulling =>
    by_cases hq : s.ledger.size < rq.quota
    · have hne := hn .pull (by simp [nextCall, hs, hq])
      simp only [step, hstage, hledger, hs, if_pos hq]
      refine counted_ask hne fun a u => ?_
      cases a with
      | none => rfl
      | some candidate => exact counted_screen ..
    · simp only [step, hstage, hledger, hs, if_neg hq]
      rfl
  | looking origin id =>
    have hne := hn (.find (some id)) (by simp [nextCall, hs])
    simp only [step, hstage, hs]
    refine counted_ask hne fun a u => ?_
    rw [counted_goto, counted_settle]
  | drained =>
    simp only [step, hstage, hledger, hs]
    split <;> rfl
  | resolving =>
    have hne := hn (.find (some rq.requester)) (by simp [nextCall, hs])
    simp only [step, hstage, hs]
    refine counted_ask hne fun a u => ?_
    split <;> rfl
  | listing profile =>
    have hne := hn (.principals profile) (by simp [nextCall, hs])
    simp only [step, hstage, hs]
    exact counted_ask hne fun a u => counted_startGroups ..
  | grouping todo =>
    cases todo with
    | nil => simp only [step, hstage, hs]; rfl
    | cons principal todo =>
      by_cases hq : s.ledger.size < rq.quota
      · have hne := hn (.find principal) (by simp [nextCall, hs, hq])
        simp only [step, hstage, hledger, hs, if_pos hq]
        refine counted_ask hne fun a u => ?_
        split <;> rfl
      · simp only [step, hstage, hledger, hs, if_neg hq]
        rfl
  | gathering group todo =>
    have hne := hn (.members group) (by simp [nextCall, hs])
    simp only [step, hstage, hs]
    exact counted_ask hne fun a u => rfl
  | filling todo =>
    cases todo with
    | nil => simp only [step, hstage, hs]; rfl
    | cons id todo =>
      simp only [step, hstage, hledger, hs]
      split
      · exact counted_consider ..
      · rfl
  | halted f => simp only [step, hstage, hs]

theorem counted_run {k : Nat} (hn : (run c sh rq k s).calls.length < n) :
    run (c.denying n d) sh rq k s.counted = (run c sh rq k s).counted := by
  induction k with
  | zero => rfl
  | succ k ih =>
    rw [run_succ_last] at hn
    rw [calls_step, List.length_append] at hn
    rw [run_succ_last, run_succ_last, ih (by omega)]
    refine (counted_step fun call hcall => ?_).symm
    rw [hcall, Option.toList_some, List.length_singleton] at hn
    omega

/-- A run that makes `n` calls makes the last of them in one of its steps. -/
theorem exists_step_of_length_le_calls {fuel : Nat} (hs : s.calls.length < n)
    (hn : n ≤ (run c sh rq fuel s).calls.length) :
    ∃ k < fuel, (run c sh rq k s).calls.length + 1 = n ∧
      ∃ call, (run c sh rq k s).nextCall rq = some call := by
  induction fuel with
  | zero =>
    have : n ≤ s.calls.length := hn
    omega
  | succ fuel ih =>
    by_cases hle : n ≤ (run c sh rq fuel s).calls.length
    · obtain ⟨k, hk, hlen, hcall⟩ := ih hle
      exact ⟨k, by omega, hlen, hcall⟩
    · rw [run_succ_last, calls_step, List.length_append] at hn
      cases hcall : (run c sh rq fuel s).nextCall rq with
      | none =>
        rw [hcall, Option.toList_none, List.length_nil] at hn
        omega
      | some call =>
        rw [hcall, Option.toList_some, List.length_singleton] at hn
        exact ⟨fuel, by omega, by omega, call, hcall⟩

/-- The denied call ends the run with what it had before. -/
theorem step_denied (hn : s.calls.length + 1 = n) (hcall : s.nextCall rq = some call) :
    step (c.denying n d) sh rq s.counted =
      (s.counted.asked (c.denying n d) call).goto (.halted (some (.denial d))) := by
  have hnext : s.counted.nextCall rq = some call := hcall
  refine step_of_error hnext ?_
  simp [State.counted, Collaborators.denying, hn]

/-- From the step with the denied call on, the run stays as it was before that step, but for the
call and its fault. -/
theorem run_denied {k fuel : Nat} (hk : k < fuel) (hn : (run c sh rq k s).calls.length + 1 = n)
    (hcall : (run c sh rq k s).nextCall rq = some call) :
    run (c.denying n d) sh rq fuel s.counted =
      ((run c sh rq k s).counted.asked (c.denying n d) call).goto
        (.halted (some (.denial d))) := by
  have hlast : run (c.denying n d) sh rq (k + 1) s.counted =
      ((run c sh rq k s).counted.asked (c.denying n d) call).goto
        (.halted (some (.denial d))) := by
    rw [run_succ_last, counted_run (by omega)]
    exact step_denied hn hcall
  have hend : (run (c.denying n d) sh rq (k + 1) s.counted).stage =
      .halted (some (.denial d)) := by
    rw [hlast]
    rfl
  rw [run_eq_of_halted hend hk, hlast]

variable {p : Policy} {o : Order} {quota : Count} {r : Result}

/-- Let a run give a feed, and let any one of its calls be denied instead. Then there is a feed as
well: it tells the denial, has the records collected before that call, has passed through a
beginning of the states, and no call is made after the denied one. -/
theorem feed_of_denied_call (c : Collaborators σ) (sh : Shuffler τ) (fieldNames : List String)
    (fuel : Nat) (env : σ) (shuffler : τ) (d : Denial) (hcheck : o.check p = .ok quota)
    (hr : (assemble c sh p fieldNames fuel o env shuffler).result = .ok r) (hpos : 1 ≤ n)
    (hn : n ≤ (assemble c sh p fieldNames fuel o env shuffler).calls.length) :
    ∃ k < fuel, ∃ r',
      (o.run c sh fieldNames quota k env shuffler).calls.length + 1 = n ∧
      (o.run c sh fieldNames quota (k + 1) env shuffler).calls.length = n ∧
      (assemble (c.denying n d) sh p fieldNames fuel o (0, env) shuffler).result = .ok r' ∧
      r'.denied = some d ∧
      r'.records = (o.run c sh fieldNames quota k env shuffler).records ∧
      r'.records <+: r.records ∧
      (∃ states, r'.states = states ++ [.done] ∧ states <+: r.states) ∧
      (assemble (c.denying n d) sh p fieldNames fuel o (0, env) shuffler).calls =
        (assemble c sh p fieldNames fuel o env shuffler).calls.take n := by
  obtain ⟨denied, -, rfl⟩ := (assemble_eq_ok_iff hcheck).1 hr
  rw [calls_assemble hcheck] at hn
  obtain ⟨k, hk, hlen, call, hcall⟩ :=
    exists_step_of_length_le_calls (s := .initial env shuffler o.requester) (by exact hpos) hn
  have hrun := run_denied (d := d) hk hlen hcall
  have hcalls : (o.run c sh fieldNames quota (k + 1) env shuffler).calls =
      (o.run c sh fieldNames quota k env shuffler).calls ++ [call] := by
    unfold Order.run
    rw [run_succ_last, calls_step, hcall]
    rfl
  have hlast : (o.run c sh fieldNames quota (k + 1) env shuffler).calls.length = n := by
    rw [hcalls, List.length_append]
    exact hlen
  have hgrow : Extends (o.run c sh fieldNames quota k env shuffler)
      (o.run c sh fieldNames quota fuel env shuffler) := extends_run_of_le (by omega)
  have hgrow' : Extends (o.run c sh fieldNames quota (k + 1) env shuffler)
      (o.run c sh fieldNames quota fuel env shuffler) := extends_run_of_le hk
  have hend : (o.run (c.denying n d) sh fieldNames quota fuel (0, env) shuffler).stage =
      .halted (denialFault (some d)) := congrArg State.stage hrun
  have hrecords : (o.run (c.denying n d) sh fieldNames quota fuel (0, env) shuffler).records =
      (o.run c sh fieldNames quota k env shuffler).records := congrArg State.records hrun
  have hstates : (o.run (c.denying n d) sh fieldNames quota fuel (0, env) shuffler).states =
      (o.run c sh fieldNames quota k env shuffler).states := congrArg State.states hrun
  have hcalls' : (o.run (c.denying n d) sh fieldNames quota fuel (0, env) shuffler).calls =
      (o.run c sh fieldNames quota (k + 1) env shuffler).calls :=
    (congrArg State.calls hrun).trans hcalls.symm
  refine ⟨k, hk, _, hlen, hlast, (assemble_eq_ok_iff hcheck).2 ⟨some d, hend, rfl⟩, rfl,
    hrecords, ?_, ⟨_, rfl, ?_⟩, ?_⟩
  · simp only [resultOf]
    rw [hrecords]
    exact hgrow.records
  · rw [hstates]
    exact hgrow.states.trans (List.prefix_append _ _)
  · rw [calls_assemble hcheck, calls_assemble hcheck, hcalls', ← hlast]
    exact List.prefix_iff_eq_take.1 hgrow'.calls

/-- Ann's feed of three takes 17 calls. If the last is denied, the last person is missing. -/
theorem feed_of_denied_call_choir :
    (⟨"ann", [], some (.int 3)⟩ : Order).check .standard = .ok (.number 3) ∧ 1 ≤ 17 ∧
      17 ≤ (choirOutcome 3).calls.length ∧
      ∃ r r', (choirOutcome 3).result = .ok r ∧ r.targets = ["bob", "eve", "dan"] ∧
        (assemble (choirWorld.collaborators.denying 17 (.reported "hidden")) .reverse .standard
          publicFieldNames 40 ⟨"ann", [], some (.int 3)⟩ (0, fun _ => .ok none) ()).result =
            .ok r' ∧
        r'.denied = some (.reported "hidden") ∧ r'.records <+: r.records ∧
        r'.targets = ["bob", "eve"] := by
  have hn : 17 ≤ (choirOutcome 3).calls.length := by
    have hlen : (choirOutcome 3).calls.length = 17 := by cbv
    omega
  have hshort : ((assemble (choirWorld.collaborators.denying 17 (.reported "hidden")) .reverse
      .standard publicFieldNames 40 ⟨"ann", [], some (.int 3)⟩ (0, fun _ => .ok none) ()).result.map
        Result.targets) = .ok ["bob", "eve"] := by cbv
  obtain ⟨k, -, r', -, -, hr', hdenied, -, hrecords, -, -⟩ :=
    feed_of_denied_call choirWorld.collaborators .reverse publicFieldNames 40 (fun _ => .ok none)
      () (.reported "hidden") check_three choirOutcome_three (by decide) hn
  refine ⟨check_three, by decide, hn, _, r', choirOutcome_three, rfl, hr', hdenied, hrecords, ?_⟩
  rw [hr'] at hshort
  exact Except.ok.inj hshort

end PeopleFeed.Feed
