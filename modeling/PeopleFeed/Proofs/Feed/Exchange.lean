import PeopleFeed.Proofs.Feed.Denial

/-! The exchanges of a run: its calls in their order, each with what it was answered. -/
namespace PeopleFeed.Feed

variable {σ τ : Type} {c : Collaborators σ} {sh : Shuffler τ} {rq : Request}
  {s : State σ τ} {call : Call} {n : Nat}

/-- A call and its answer. -/
structure Exchange where
  call : Call
  answer : Except Fault call.Answer

/-- The exchange of the next step, if it makes a call. -/
def State.exchange? (c : Collaborators σ) (rq : Request) (s : State σ τ) : Option Exchange :=
  (s.nextCall rq).map fun call => ⟨call, (c.respond call s.env).answer⟩

theorem State.exchange?_of_none (hn : s.nextCall rq = none) : s.exchange? c rq = none := by
  simp [State.exchange?, hn]

theorem State.exchange?_of_some {answer : Except Fault call.Answer}
    (hn : s.nextCall rq = some call) (ha : (c.respond call s.env).answer = answer) :
    s.exchange? c rq = some ⟨call, answer⟩ := by
  simp [State.exchange?, hn, ha]

/-- The exchanges of the first steps of a run. -/
def exchanges (c : Collaborators σ) (sh : Shuffler τ) (rq : Request) (n : Nat) (s : State σ τ) :
    List Exchange :=
  (List.range n).filterMap fun k => (run c sh rq k s).exchange? c rq

theorem exchanges_succ (n : Nat) (s : State σ τ) :
    exchanges c sh rq (n + 1) s =
      exchanges c sh rq n s ++ ((run c sh rq n s).exchange? c rq).toList := by
  rw [exchanges, List.range_succ, List.filterMap_append]
  cases h : (run c sh rq n s).exchange? c rq <;> simp [exchanges, h]

/-- The calls that a run tells are those of its exchanges. -/
theorem calls_run (c : Collaborators σ) (sh : Shuffler τ) (rq : Request) (n : Nat)
    (s : State σ τ) :
    (run c sh rq n s).calls = s.calls ++ (exchanges c sh rq n s).map (·.call) := by
  induction n with
  | zero => simp [exchanges, run, runTo]
  | succ n ih =>
    rw [run_succ_last, calls_step, ih, exchanges_succ, List.map_append, List.append_assoc]
    congr 2
    cases h : (run c sh rq n s).nextCall rq <;> simp [State.exchange?, h]

/-- A fault in an answer ends a run, and no call is made after it. -/
theorem run_of_error {f : Fault} {k : Nat} (hn : (run c sh rq k s).nextCall rq = some call)
    (ha : (c.respond call (run c sh rq k s).env).answer = .error f) (hk : k < n) :
    run c sh rq n s = ((run c sh rq k s).asked c call).goto (.halted (some f)) := by
  have hstep : run c sh rq (k + 1) s =
      ((run c sh rq k s).asked c call).goto (.halted (some f)) := by
    rw [run_succ_last]
    exact step_of_error hn ha
  rw [run_eq_of_halted (congrArg State.stage hstep) hk, hstep]

/-- The exchanges of the run of an order whose page size is accepted. -/
def Order.exchanges (o : Order) (c : Collaborators σ) (sh : Shuffler τ)
    (fieldNames : List String) (quota : Count) (n : Nat) (env : σ) (shuffler : τ) :
    List Exchange :=
  Feed.exchanges c sh (o.request quota fieldNames) n (.initial env shuffler o.requester)

end PeopleFeed.Feed
