import PeopleFeed.Proofs.Feed.Bookkeeping
import PeopleFeed.Proofs.Feed.CalmRun

/-! Where the consumption of a stream ends. It takes the fewest items on which enough people are
found, and what it leaves depends on no others; where there are never enough it ends with the
stream, or never. -/
namespace PeopleFeed.Feed

open PeopleFeed.Search (Candidate NamelessPath)

variable {σ τ : Type} {c : Collaborators σ} {sh : Shuffler τ} {rq : Request} {w : World}
  {d : Register} {At : σ → Ahead → Prop} {ahead : Ahead} {s t : State σ τ} {requester id : String}
  {connected fieldNames : List String} {items : List Candidate} {candidate : Candidate}
  {m n fuel : Nat}

/-- The first items of a stream, without the places that hold none. -/
def firstItems (ahead : Ahead) (n : Nat) : List Candidate :=
  (List.range n).filterMap fun i => (ahead i).toOption.join

/-- A stream has so many items. -/
def HasItems (ahead : Ahead) (n : Nat) : Prop :=
  ∀ i < n, ∃ candidate, ahead i = .ok (some candidate)

/-- All items of a recognized kind name somebody. -/
def AllNamed (items : List Candidate) : Prop :=
  ∀ candidate ∈ items, ∀ path, candidate.entityId ≠ .error path

/-- The resource types of the items that nobody provides for. -/
def unprovidedTypes (items : List Candidate) : List (Option String) :=
  items.filterMap fun candidate =>
    match candidate.entityId with
    | .ok none => some candidate.resourceType
    | _ => none

namespace Register

/-- There are so many items on a stream, and enough people are found on them. -/
def Suffices (d : Register) (requester : String) (connected : List String) (quota : Nat)
    (ahead : Ahead) (n : Nat) : Prop :=
  HasItems ahead n ∧ quota ≤ (d.found requester connected (firstItems ahead n)).length

/-- The record of somebody. -/
def recordOf (d : Register) (fieldNames : List String) (id : String) : Record :=
  ⟨id, (d.find (some id)).elim [] (publicFields fieldNames)⟩

/-- The counters after some items of a stream. -/
def screened (d : Register) (requester : String) (connected : List String)
    (items : List Candidate) (m : Metrics) : Metrics :=
  let found := d.found requester connected items
  { m with
    considered := m.considered + (pointedAt items).length
    emitted := m.emitted + found.length
    byPhase := (Tally.bump Phase.primary.name)^[found.length] m.byPhase
    unrecognized := (unprovidedTypes items).foldl
      (fun tally type => Tally.bump (Metrics.typeKey type) tally) m.unrecognized }

end Register

/-- A run has taken some items off its stream, of which it shows the people and has counted all. -/
structure HasTaken (d : Register) (requester : String) (connected fieldNames : List String)
    (items : List Candidate) (s : State σ τ) : Prop where
  ledger : s.ledger = ⟨requester, connected, d.found requester connected items⟩
  records : s.records = (d.found requester connected items).map (d.recordOf fieldNames)
  counters : ∀ m : Metrics, m.recordAll s.events = d.screened requester connected items m

/-- The consumption of a stream is over: what it gives, how many pulls it has made, and the items
that it leaves something of. -/
structure EndsWith (d : Register) (requester : String) (connected fieldNames : List String)
    (answer : Except Fault Bool) (pulls : Nat) (items : List Candidate)
    (part : Session.Part σ τ Bool) : Prop where
  answer : part.answer = some answer
  pulls : part.state.calls.count .pull = pulls
  taken : HasTaken d requester connected fieldNames items part.state

theorem firstItems_succ (h : ahead n = .ok (some candidate)) :
    firstItems ahead (n + 1) = firstItems ahead n ++ [candidate] := by
  simp [firstItems, List.range_succ, h, Except.toOption]

theorem HasItems.of_le (h : HasItems ahead n) (hmn : m ≤ n) : HasItems ahead m :=
  fun i hi => h i (hi.trans_le hmn)

theorem HasItems.length (h : HasItems ahead n) : (firstItems ahead n).length = n := by
  induction n with
  | zero => rfl
  | succ n ih =>
    obtain ⟨candidate, hcandidate⟩ := h n (Nat.lt_succ_self n)
    rw [firstItems_succ hcandidate, List.length_append, ih (h.of_le (Nat.le_succ n))]
    rfl

namespace Register

theorem found_concat_of_none (hid : candidate.entityId = .ok none) :
    d.found requester connected (items ++ [candidate]) = d.found requester connected items := by
  simp [found, pointedAt, hid]

/-- One more item shows somebody if that is a person who may still be emitted. -/
theorem found_concat_of_some (hid : candidate.entityId = .ok (some id)) :
    d.found requester connected (items ++ [candidate]) =
      if (⟨requester, connected, d.found requester connected items⟩ : Ledger).isEligible id &&
          d.isPerson id then
        d.found requester connected items ++ [id]
      else d.found requester connected items := by
  have hpointed : pointedAt (items ++ [candidate]) = pointedAt items ++ [id] := by
    simp [pointedAt, hid]
  have hnew : ((⟨requester, connected, d.found requester connected items⟩ : Ledger).isEligible id &&
      d.isPerson id) = (d.mayShow requester connected id &&
        !((pointedAt items).filter (d.mayShow requester connected)).contains id) := by
    rw [Bool.eq_iff_iff]
    simp [Ledger.isEligible_iff, mayShow, found]
    tauto
  rw [hnew, found, hpointed, List.filter_append, List.eraseDups_append, found]
  generalize (pointedAt items).filter (d.mayShow requester connected) = shown
  cases hmay : d.mayShow requester connected id with
  | false => simp [hmay, List.removeAll]
  | true => cases hin : shown.contains id <;> simp_all [List.removeAll, List.eraseDups_cons]

/-- What one more item counts as. -/
def entries (d : Register) (l : Ledger) (candidate : Candidate) : List Event :=
  match candidate.entityId with
  | .error _ => []
  | .ok none => [.unrecognized candidate]
  | .ok (some id) =>
    if l.isEligible id && d.isPerson id then [.considered .primary, .emitted .primary]
    else [.considered .primary]

theorem screened_concat (hnamed : ∀ path, candidate.entityId ≠ .error path) (m : Metrics) :
    d.screened requester connected (items ++ [candidate]) m =
      (d.screened requester connected items m).recordAll
        (d.entries ⟨requester, connected, d.found requester connected items⟩ candidate) := by
  cases hid : candidate.entityId with
  | error path => exact absurd hid (hnamed path)
  | ok named =>
    cases named with
    | none =>
      have hpointed : pointedAt (items ++ [candidate]) = pointedAt items := by
        simp [pointedAt, hid]
      simp [screened, entries, hid, found_concat_of_none hid, hpointed, unprovidedTypes,
        Metrics.recordAll, Metrics.record]
    | some id =>
      have hpointed : pointedAt (items ++ [candidate]) = pointedAt items ++ [id] := by
        simp [pointedAt, hid]
      have htypes : unprovidedTypes (items ++ [candidate]) = unprovidedTypes items := by
        simp [unprovidedTypes, hid]
      simp only [screened, entries, hid, found_concat_of_some hid, hpointed, htypes]
      split
      · simp [Metrics.recordAll, Metrics.record, Function.iterate_succ_apply', Nat.add_assoc]
      · simp [Metrics.recordAll, Metrics.record, Nat.add_assoc]

end Register

theorem recordAll_asked (m : Metrics) (c : Collaborators σ) (call : Call) (s : State σ τ) :
    m.recordAll (s.asked c call).events = m.recordAll s.events := by
  rw [← recordAll_counted, ← recordAll_counted m s.events]
  simp [State.asked]

theorem HasTaken.asked (h : HasTaken d requester connected fieldNames items s) (c : Collaborators σ)
    (call : Call) : HasTaken d requester connected fieldNames items (s.asked c call) where
  ledger := h.ledger
  records := h.records
  counters m := (recordAll_asked m c call s).trans (h.counters m)

/-- An item that shows nobody is only counted. -/
theorem HasTaken.count (h : HasTaken d requester connected fieldNames items s)
    (hnamed : ∀ path, candidate.entityId ≠ .error path)
    (hfound : d.found requester connected (items ++ [candidate]) =
      d.found requester connected items)
    (hledger : t.ledger = s.ledger) (hrecords : t.records = s.records)
    (hevents : ∀ m : Metrics, m.recordAll t.events =
      (m.recordAll s.events).recordAll (d.entries s.ledger candidate)) :
    HasTaken d requester connected fieldNames (items ++ [candidate]) t where
  ledger := by rw [hledger, h.ledger, hfound]
  records := by rw [hrecords, h.records, hfound]
  counters m := by rw [hevents, h.counters, h.ledger, Register.screened_concat hnamed]

/-- An item that shows somebody new. -/
theorem HasTaken.emit (h : HasTaken d requester connected fieldNames items s)
    (hid : candidate.entityId = .ok (some id))
    (hnew : (s.ledger.isEligible id && d.isPerson id) = true)
    (hledger : t.ledger = s.ledger.mark id)
    (hrecords : t.records = s.records ++ [d.recordOf fieldNames id])
    (hevents : ∀ m : Metrics, m.recordAll t.events =
      (m.recordAll s.events).recordAll (d.entries s.ledger candidate)) :
    HasTaken d requester connected fieldNames (items ++ [candidate]) t := by
  have hmark := Ledger.mark_of_isEligible (Bool.and_eq_true_iff.mp hnew).1
  rw [h.ledger] at hnew hmark
  have hfound : d.found requester connected (items ++ [candidate]) =
      d.found requester connected items ++ [id] := by
    rw [Register.found_concat_of_some hid, if_pos hnew]
  have hnamed : ∀ path, candidate.entityId ≠ .error path := by simp [hid]
  constructor
  · rw [hledger, h.ledger, hmark, hfound]
  · rw [hrecords, h.records, hfound, List.map_append, List.map_singleton]
  · intro m
    rw [hevents, h.counters, h.ledger, Register.screened_concat hnamed]

/-- A run is about to pull the next item of its stream. -/
structure AboutToPull (d : Register) (At : σ → Ahead → Prop) (ahead : Ahead) (requester : String)
    (connected fieldNames : List String) (items : List Candidate) (s : State σ τ) : Prop
    extends HasTaken d requester connected fieldNames items s where
  stage : s.stage = .pulling
  env : At s.env fun n => ahead (n + items.length)
  pulls : s.calls.count .pull = items.length

/-- Whoever is found to be a person is emitted, anybody else skipped. -/
theorem settle_find (d : Register) (s : State σ τ) (fieldNames : List String) (phase : Phase)
    (id : String) :
    s.settle fieldNames phase id (d.find (some id)) =
      if d.isPerson id then
        { s with
          records := s.records ++ [d.recordOf fieldNames id]
          ledger := s.ledger.mark id
          events := s.events ++ [.emitted phase] }
      else s.log (.skipped phase id) := by
  unfold Register.isPerson Register.recordOf
  rcases hfound : d.find (some id) with _ | ⟨_ | _, entityId, properties⟩ <;>
    simp [State.settle]

/-- A run that has pulled an item and looks somebody up for it. -/
theorem aboutToPull_looking (sh : Shuffler τ) (rq : Request) (hw : Plays c w At)
    (hfind : ∀ id, w.answer (.find id) = .ok (d.find id))
    (h : HasTaken d requester connected rq.fieldNames items s)
    (hid : candidate.entityId = .ok (some id)) (heligible : s.ledger.isEligible id = true)
    (he : At s.env fun n => ahead (n + (items ++ [candidate]).length))
    (hpulls : s.calls.count .pull = (items ++ [candidate]).length) :
    AboutToPull d At ahead requester connected rq.fieldNames (items ++ [candidate])
      (step c sh rq ((s.log (.considered .primary)).goto (.looking .stream id))) := by
  obtain ⟨ha, hat⟩ := hw.answer (.find (some id)) _ _ (by simp) he
  rw [hfind] at ha
  have hlook : ((s.log (.considered .primary)).goto (.looking .stream id)).stage =
      .looking .stream id := rfl
  have hstep : step c sh rq ((s.log (.considered .primary)).goto (.looking .stream id)) =
      ((((s.log (.considered .primary)).goto (.looking .stream id)).asked c
        (.find (some id))).settle rq.fieldNames .primary id (d.find (some id))).goto .pulling :=
    step_of_found hlook ha
  have hnamed : ∀ path, candidate.entityId ≠ .error path := by simp [hid]
  have hconsidered (m : Metrics) (e : Event) :
      m.recordAll ((((s.log (.considered .primary)).goto (.looking .stream id)).asked c
        (.find (some id))).events ++ [e]) =
          (m.recordAll s.events).recordAll [.considered .primary, e] := by
    rw [Metrics.recordAll_append, recordAll_asked]
    exact congrArg (Metrics.recordAll · [e]) (Metrics.recordAll_append ..)
  have hcalls : (s.calls ++ [Call.find (some id)]).count .pull = (items ++ [candidate]).length := by
    simpa using hpulls
  rw [hstep, settle_find]
  cases hperson : d.isPerson id with
  | true =>
    have hnew : (s.ledger.isEligible id && d.isPerson id) = true := by simp [heligible, hperson]
    rw [if_pos rfl]
    refine ⟨h.emit hid hnew rfl rfl fun m => ?_, rfl, hat, hcalls⟩
    simp only [Register.entries, hid, hnew, if_true]
    exact hconsidered m _
  | false =>
    have hold : (s.ledger.isEligible id && d.isPerson id) = false := by simp [hperson]
    have hfound : d.found requester connected (items ++ [candidate]) =
        d.found requester connected items := by
      rw [Register.found_concat_of_some hid, ← h.ledger, if_neg (by simp [hold])]
    rw [if_neg Bool.false_ne_true]
    refine ⟨h.count hnamed hfound rfl rfl fun m => ?_, rfl, hat, hcalls⟩
    simp only [Register.entries, hid, hold, Bool.false_eq_true, if_false]
    exact hconsidered m _

/-- A step or two take the next item off the stream. -/
theorem aboutToPull_next (sh : Shuffler τ) (hw : Plays c w At)
    (hfind : ∀ id, w.answer (.find id) = .ok (d.find id))
    (h : AboutToPull d At ahead requester connected rq.fieldNames items s)
    (hroom : (d.found requester connected items).length < rq.quota)
    (hitem : ahead items.length = .ok (some candidate))
    (hnamed : ∀ path, candidate.entityId ≠ .error path) :
    ∃ k, 1 ≤ k ∧ k ≤ 2 ∧ AboutToPull d At ahead requester connected rq.fieldNames
      (items ++ [candidate]) (run c sh rq k s) := by
  obtain ⟨ha, hat⟩ := hw.pull _ _ h.env
  rw [Nat.zero_add, hitem] at ha
  have hsize : s.ledger.size < rq.quota := by
    rw [h.ledger]
    exact hroom
  have hstep : step c sh rq s = (s.asked c .pull).screen candidate := by
    simp only [step, h.stage, if_pos hsize, State.ask_of_ok ha]
  have htaken := h.toHasTaken.asked c .pull
  have hahead : At (s.asked c .pull).env fun n => ahead (n + (items ++ [candidate]).length) := by
    simpa [State.asked, Nat.add_assoc, Nat.add_comm 1] using hat
  have hpulls : (s.asked c .pull).calls.count .pull = (items ++ [candidate]).length := by
    simp [State.asked, h.pulls]
  cases hid : candidate.entityId with
  | error path => exact absurd hid (hnamed path)
  | ok named =>
    cases named with
    | none =>
      have hscreen : run c sh rq 1 s =
          ((s.asked c .pull).log (.unrecognized candidate)).goto .pulling := by
        rw [run_succ, hstep, State.screen, hid]
        rfl
      refine ⟨1, le_rfl, by omega, ?_⟩
      rw [hscreen]
      refine ⟨htaken.count hnamed (Register.found_concat_of_none hid) rfl rfl fun m => ?_,
        rfl, hahead, hpulls⟩
      simp only [Register.entries, hid]
      exact Metrics.recordAll_append ..
    | some id =>
      have hne : id ≠ "" := Candidate.entityId_ne_empty hid
      have hoffer : Offer c rq s .stream id (s.asked c .pull) := .stream h.stage hsize ha hid
      cases heligible : (s.asked c .pull).ledger.isEligible id with
      | false =>
        have hold : (s.ledger.isEligible id && d.isPerson id) = false := by
          have hsame : s.ledger.isEligible id = false := heligible
          simp [hsame]
        have hfound : d.found requester connected (items ++ [candidate]) =
            d.found requester connected items := by
          rw [Register.found_concat_of_some hid, ← h.ledger, if_neg (by simp [hold])]
        have hscreen : run c sh rq 1 s =
            ((s.asked c .pull).log (.considered .primary)).goto .pulling := by
          rw [run_succ, step_of_offer sh hoffer, State.consider_of_not_isEligible hne heligible]
          rfl
        refine ⟨1, le_rfl, by omega, ?_⟩
        rw [hscreen]
        refine ⟨htaken.count hnamed hfound rfl rfl fun m => ?_, rfl, hahead, hpulls⟩
        simp only [Register.entries, hid]
        rw [if_neg (by simpa [State.asked] using hold)]
        exact Metrics.recordAll_append ..
      | true =>
        have hscreen : run c sh rq 2 s = step c sh rq
            (((s.asked c .pull).log (.considered .primary)).goto (.looking .stream id)) := by
          rw [run_succ, run_succ, step_of_offer sh hoffer,
            State.consider_of_isEligible hne heligible]
          rfl
        refine ⟨2, by omega, le_rfl, ?_⟩
        rw [hscreen]
        exact aboutToPull_looking sh rq hw hfind htaken hid heligible hahead hpulls

/-- As long as there is room, the items are taken off the stream, each in a step or two. -/
theorem exists_aboutToPull (sh : Shuffler τ) (hw : Plays c w At)
    (hfind : ∀ id, w.answer (.find id) = .ok (d.find id))
    (hs : AboutToPull d At ahead requester connected rq.fieldNames [] s)
    (hitems : HasItems ahead n) (hnamed : AllNamed (firstItems ahead n))
    (hroom : ∀ m < n, (d.found requester connected (firstItems ahead m)).length < rq.quota) :
    ∃ k, n ≤ k ∧ k ≤ 2 * n ∧ AboutToPull d At ahead requester connected rq.fieldNames
      (firstItems ahead n) (run c sh rq k s) := by
  induction n with
  | zero => exact ⟨0, le_rfl, le_rfl, hs⟩
  | succ n ih =>
    obtain ⟨candidate, hcandidate⟩ := hitems n (Nat.lt_succ_self n)
    have hbefore := hitems.of_le (Nat.le_succ n)
    rw [firstItems_succ hcandidate] at hnamed ⊢
    obtain ⟨k, hnk, hk, hreached⟩ := ih hbefore
      (fun item hitem => hnamed item (List.mem_append_left _ hitem))
      fun m hm => hroom m (by omega)
    obtain ⟨j, hj, hj', hnext⟩ := aboutToPull_next sh hw hfind hreached
      (hroom n (Nat.lt_succ_self n)) (hbefore.length.symm ▸ hcandidate)
      (hnamed candidate (by simp))
    rw [← run_add] at hnext
    exact ⟨k + j, by omega, by omega, hnext⟩

/-- A run that is busy with its stream has been so all the time. -/
theorem isPrimary_of_le (h : (run c sh rq n s).stage.isPrimary = true) (hmn : m ≤ n) :
    (run c sh rq m s).stage.isPrimary = true := by
  by_contra hm
  obtain ⟨k, rfl⟩ := Nat.exists_eq_add_of_le hmn
  have hk : (run c sh rq k (run c sh rq m s)).stage.isPrimary = false :=
    run_induction (P := fun t : State σ τ => t.stage.isPrimary = false)
      (fun _ _ => secondary_transition) (Bool.eq_false_of_not_eq_true hm) k
  rw [run_add, hk] at h
  cases h

theorem consumed_of_isPrimary (h : (run c sh rq n s).stage.isPrimary = true) (fuel : Nat) :
    consumed c sh rq (n + fuel) s = consumed c sh rq fuel (run c sh rq n s) := by
  induction n generalizing s with
  | zero =>
    rw [Nat.zero_add]
    rfl
  | succ n ih =>
    have hs : Session.isConsumed s.stage = false := by
      by_contra hs
      have hprimary : s.stage.isPrimary = true := isPrimary_of_le h (Nat.zero_le _)
      rw [isPrimary_of_isConsumed (Bool.eq_true_of_not_eq_false hs)] at hprimary
      cases hprimary
    have hfirst : consumed c sh rq (n + 1 + fuel) s =
        consumed c sh rq (n + fuel) (step c sh rq s) := by
      rw [Nat.add_right_comm]
      simp [consumed, runTo, hs]
    rw [run_succ] at h ⊢
    rw [hfirst, ih h]

/-- The step after which the stream is consumed is the last one. -/
theorem consumed_of_step (hn : (run c sh rq n s).stage.isPrimary = true)
    (ht : step c sh rq (run c sh rq n s) = t) (hend : Session.isConsumed t.stage = true)
    (hfuel : n < fuel) : consumed c sh rq fuel s = t := by
  obtain ⟨more, rfl⟩ : ∃ more, fuel = n + (more + 1) := ⟨fuel - n - 1, by omega⟩
  have hlive : Session.isConsumed (run c sh rq n s).stage = false := by
    by_contra hover
    rw [isPrimary_of_isConsumed (Bool.eq_true_of_not_eq_false hover)] at hn
    cases hn
  have hstop : runTo Session.isConsumed c sh rq more t = t := by
    cases more with
    | zero => rfl
    | succ more => simp [runTo, hend]
  rw [consumed_of_isPrimary hn]
  simp [consumed, runTo, hlive, ht, hstop]

variable {env : σ} {shuffler : τ}

theorem aboutToPull_start (hw : Plays c w At) (he : At env ahead) (d : Register) (shuffler : τ)
    (requester : String) (connected fieldNames : List String) :
    AboutToPull d At (w.stream []) requester connected fieldNames []
      (Session.start c env shuffler requester connected) where
  ledger := rfl
  records := rfl
  counters _ := rfl
  stage := rfl
  env := hw.query [] env ahead he
  pulls := rfl

/-- The last step of a consumption, behind so many items. -/
theorem endsWith_of_step {answer : Except Fault Bool} {pulls : Nat}
    (hn : AboutToPull d At ahead requester connected rq.fieldNames items (run c sh rq n s))
    (hs : s.stage = .pulling) (ht : step c sh rq (run c sh rq n s) = t)
    (htaken : HasTaken d requester connected rq.fieldNames items t)
    (hpulls : t.calls.count .pull = pulls)
    (hend : t.stage = .drained ∧ answer = .ok true ∨ t.stage = .halted none ∧ answer = .ok false ∨
      ∃ fault, t.stage = .halted (some fault) ∧ answer = .error fault)
    (hfuel : n < fuel) :
    EndsWith d requester connected rq.fieldNames answer pulls items
      (Session.consume c sh rq fuel s) := by
  have hstop : Session.isConsumed t.stage = true := by
    rcases hend with ⟨hst, -⟩ | ⟨hst, -⟩ | ⟨fault, hst, -⟩ <;> rw [hst] <;> rfl
  have hprimary : (run c sh rq n s).stage.isPrimary = true := by
    rw [hn.stage]
    rfl
  have hsame : s.goto .pulling = s := by
    rw [← hs]
    rfl
  have hconsumed : runTo Session.isConsumed c sh rq fuel (s.goto .pulling) = t := by
    rw [hsame]
    exact consumed_of_step hprimary ht hstop hfuel
  have hpart : Session.consume c sh rq fuel s = ⟨some answer, t⟩ := by
    simp only [Session.consume, hconsumed]
    rcases hend with ⟨hst, rfl⟩ | ⟨hst, rfl⟩ | ⟨fault, hst, rfl⟩ <;> rw [hst]
  rw [hpart]
  exact ⟨rfl, hpulls, htaken⟩

theorem consume_of_enough (sh : Shuffler τ) (hw : Plays c w At)
    (hfind : ∀ id, w.answer (.find id) = .ok (d.find id))
    (hs : AboutToPull d At ahead requester connected rq.fieldNames [] s)
    (hn : IsLeast {n | d.Suffices requester connected rq.quota ahead n} n)
    (hnamed : AllNamed (firstItems ahead n)) (hfuel : 2 * n < fuel) :
    EndsWith d requester connected rq.fieldNames (.ok false) n (firstItems ahead n)
      (Session.consume c sh rq fuel s) := by
  obtain ⟨⟨hitems, hle⟩, hleast⟩ := hn
  have hroom : ∀ m < n, (d.found requester connected (firstItems ahead m)).length < rq.quota := by
    intro m hm
    by_contra hnot
    exact Nat.not_le_of_lt hm (hleast ⟨hitems.of_le hm.le, Nat.le_of_not_lt hnot⟩)
  obtain ⟨k, -, hk, hreached⟩ := exists_aboutToPull sh hw hfind hs hitems hnamed hroom
  have hfull : ¬ (run c sh rq k s).ledger.size < rq.quota := by
    rw [hreached.ledger]
    exact Nat.not_lt.mpr hle
  have hstep : step c sh rq (run c sh rq k s) = (run c sh rq k s).goto (.halted none) := by
    simp only [step, hreached.stage, if_neg hfull]
  exact endsWith_of_step hreached hs.stage hstep
    ⟨hreached.ledger, hreached.records, hreached.counters⟩ (hreached.pulls.trans hitems.length)
    (.inr (.inl ⟨rfl, rfl⟩)) (by omega)

/-- Where there is room left behind some items, the next pull tells how it goes on. -/
theorem exists_asked (sh : Shuffler τ) (hw : Plays c w At)
    (hfind : ∀ id, w.answer (.find id) = .ok (d.find id))
    (hs : AboutToPull d At ahead requester connected rq.fieldNames [] s)
    (hitems : HasItems ahead n) (hnamed : AllNamed (firstItems ahead n))
    (hnever : ∀ m ≤ n, ¬ d.Suffices requester connected rq.quota ahead m) :
    ∃ k, n ≤ k ∧ k ≤ 2 * n ∧
      AboutToPull d At ahead requester connected rq.fieldNames (firstItems ahead n)
        (run c sh rq k s) ∧
      (run c sh rq k s).ledger.size < rq.quota ∧
      (c.respond .pull (run c sh rq k s).env).answer = ahead n ∧
      ((run c sh rq k s).asked c .pull).calls.count .pull = n + 1 := by
  have hroom : ∀ m ≤ n, (d.found requester connected (firstItems ahead m)).length < rq.quota :=
    fun m hm => Nat.lt_of_not_le fun hle => hnever m hm ⟨hitems.of_le hm, hle⟩
  obtain ⟨k, hnk, hk, hreached⟩ :=
    exists_aboutToPull sh hw hfind hs hitems hnamed fun m hm => hroom m hm.le
  have hanswer := (hw.pull _ _ hreached.env).1
  rw [Nat.zero_add, hitems.length] at hanswer
  refine ⟨k, hnk, hk, hreached, ?_, hanswer, ?_⟩
  · rw [hreached.ledger]
    exact hroom n le_rfl
  · simp [State.asked, hreached.pulls, hitems.length]

theorem consume_of_nameless {path : NamelessPath} (sh : Shuffler τ) (hw : Plays c w At)
    (hfind : ∀ id, w.answer (.find id) = .ok (d.find id))
    (hs : AboutToPull d At ahead requester connected rq.fieldNames [] s)
    (hitems : HasItems ahead n) (hnamed : AllNamed (firstItems ahead n))
    (hnever : ∀ m ≤ n, ¬ d.Suffices requester connected rq.quota ahead m)
    (hcandidate : ahead n = .ok (some candidate)) (hpath : candidate.entityId = .error path)
    (hfuel : 2 * n < fuel) :
    EndsWith d requester connected rq.fieldNames (.error (.breach (.namelessPath path))) (n + 1)
      (firstItems ahead n) (Session.consume c sh rq fuel s) := by
  obtain ⟨k, -, hk, hreached, hroom, hanswer, hpulls⟩ :=
    exists_asked sh hw hfind hs hitems hnamed hnever
  have hstep : step c sh rq (run c sh rq k s) = ((run c sh rq k s).asked c .pull).goto
      (.halted (some (.breach (.namelessPath path)))) := by
    simp only [step, hreached.stage, if_pos hroom, State.ask_of_ok (hanswer.trans hcandidate),
      State.screen, hpath]
  have htaken := hreached.toHasTaken.asked c .pull
  exact endsWith_of_step hreached hs.stage hstep
    ⟨htaken.ledger, htaken.records, htaken.counters⟩ hpulls (.inr (.inr ⟨_, rfl, rfl⟩)) (by omega)

theorem consume_of_dried (sh : Shuffler τ) (hw : Plays c w At)
    (hfind : ∀ id, w.answer (.find id) = .ok (d.find id))
    (hs : AboutToPull d At ahead requester connected rq.fieldNames [] s)
    (hitems : HasItems ahead n) (hnamed : AllNamed (firstItems ahead n))
    (hnever : ∀ m ≤ n, ¬ d.Suffices requester connected rq.quota ahead m)
    (hdry : ahead n = .ok none) (hfuel : 2 * n < fuel) :
    EndsWith d requester connected rq.fieldNames (.ok true) (n + 1) (firstItems ahead n)
      (Session.consume c sh rq fuel s) := by
  obtain ⟨k, -, hk, hreached, hroom, hanswer, hpulls⟩ :=
    exists_asked sh hw hfind hs hitems hnamed hnever
  have hstep : step c sh rq (run c sh rq k s) =
      ((run c sh rq k s).asked c .pull).goto .drained := by
    simp only [step, hreached.stage, if_pos hroom, State.ask_of_ok (hanswer.trans hdry)]
  have htaken := hreached.toHasTaken.asked c .pull
  exact endsWith_of_step hreached hs.stage hstep
    ⟨htaken.ledger, htaken.records, htaken.counters⟩ hpulls (.inl ⟨rfl, rfl⟩) (by omega)

theorem consume_of_endless (sh : Shuffler τ) (hw : Plays c w At)
    (hfind : ∀ id, w.answer (.find id) = .ok (d.find id))
    (hs : AboutToPull d At ahead requester connected rq.fieldNames [] s)
    (hitems : ∀ n, HasItems ahead n ∧ AllNamed (firstItems ahead n))
    (hnever : ∀ n, ¬ d.Suffices requester connected rq.quota ahead n) (fuel : Nat) :
    (Session.consume c sh rq fuel s).answer = none := by
  -- Behind as many items as there are steps, the run is still busy with its stream.
  obtain ⟨k, hk, -, hreached, -⟩ := exists_asked (n := fuel) sh hw hfind hs (hitems fuel).1
    (hitems fuel).2 fun m _ => hnever m
  have hprimary : (run c sh rq fuel s).stage.isPrimary = true := by
    refine isPrimary_of_le (n := k) ?_ hk
    rw [hreached.stage]
    rfl
  have hconsumed : runTo Session.isConsumed c sh rq fuel (s.goto .pulling) =
      run c sh rq fuel s := by
    have hsame : s.goto .pulling = s := by
      rw [← hs.stage]
      rfl
    rw [hsame]
    exact consumed_of_isPrimary hprimary 0
  simp only [Session.consume, hconsumed]
  cases hstage : (run c sh rq fuel s).stage with
  | drained => simp [hstage, Stage.isPrimary] at hprimary
  | halted => simp [hstage, Stage.isPrimary] at hprimary
  | _ => rfl

/-- Consuming a stream with a directory that always answers. As soon as enough people are found on
the items that were pulled, it is over; what it leaves is told by these items, whatever lies behind
them. An item of a recognized kind that names nobody breaks the contract if it comes before that. A
stream that ends before that is consumed to its end, and one that goes on for ever is consumed for
ever. -/
theorem consume_stream (hw : Plays c w At) (hfind : ∀ id, w.answer (.find id) = .ok (d.find id))
    (he : At env ahead) (sh : Shuffler τ) (rq : Request) (shuffler : τ) (requester : String)
    (connected : List String) :
    let consume (fuel : Nat) :=
      Session.consume c sh rq fuel (Session.start c env shuffler requester connected)
    let stream := w.stream []
    let Suffices := d.Suffices requester connected rq.quota stream
    (∀ n, IsLeast {n | Suffices n} n → AllNamed (firstItems stream n) → ∀ fuel > 2 * n,
      EndsWith d requester connected rq.fieldNames (.ok false) n (firstItems stream n)
        (consume fuel)) ∧
    (∀ n candidate path, HasItems stream n → AllNamed (firstItems stream n) →
      (∀ m ≤ n, ¬ Suffices m) → stream n = .ok (some candidate) →
      candidate.entityId = .error path → ∀ fuel > 2 * n,
        EndsWith d requester connected rq.fieldNames (.error (.breach (.namelessPath path)))
          (n + 1) (firstItems stream n) (consume fuel)) ∧
    (∀ n, HasItems stream n → AllNamed (firstItems stream n) → (∀ m ≤ n, ¬ Suffices m) →
      stream n = .ok none → ∀ fuel > 2 * n,
        EndsWith d requester connected rq.fieldNames (.ok true) (n + 1) (firstItems stream n)
          (consume fuel)) ∧
    ((∀ n, HasItems stream n ∧ AllNamed (firstItems stream n)) → (∀ n, ¬ Suffices n) →
      ∀ fuel, (consume fuel).answer = none) := by
  have hs := aboutToPull_start hw he d shuffler requester connected rq.fieldNames
  refine ⟨?_, ?_, ?_, ?_⟩
  · intro n hn hnamed fuel hfuel
    exact consume_of_enough sh hw hfind hs hn hnamed hfuel
  · intro n candidate path hitems hnamed hnever hcandidate hpath fuel hfuel
    exact consume_of_nameless sh hw hfind hs hitems hnamed hnever hcandidate hpath hfuel
  · intro n hitems hnamed hnever hdry fuel hfuel
    exact consume_of_dried sh hw hfind hs hitems hnamed hnever hdry hfuel
  · intro hitems hnever fuel
    exact consume_of_endless sh hw hfind hs hitems hnever fuel

/-- The choir with another stream. -/
def choirAlong (stream : Ahead) : World :=
  ⟨fun _ => stream, choirWorld.answer⟩

def bobItem : Candidate := ⟨some "sakai/contact", "/a/bob", []⟩

def eveItem : Candidate := ⟨some "authorizable", "eve", []⟩

/-- A contact whose path ends in a slash. -/
def nobodyItem : Candidate := ⟨some "sakai/contact", "/a/", []⟩

/-- Bob and Eve in turn, without an end. -/
def bobAndEve : Ahead :=
  fun n => .ok (some (if n % 2 = 0 then bobItem else eveItem))

/-- Bob again and again. -/
def onlyBob : Ahead :=
  fun _ => .ok (some bobItem)

theorem entityId_bobItem : bobItem.entityId = .ok (some "bob") := by
  cbv

theorem hasItems_onlyBob (n : Nat) : HasItems onlyBob n :=
  fun _ _ => ⟨bobItem, rfl⟩

theorem firstItems_onlyBob (n : Nat) : firstItems onlyBob n = List.replicate n bobItem := by
  induction n with
  | zero => rfl
  | succ n ih => rw [firstItems_succ rfl, ih, List.replicate_succ']

theorem allNamed_onlyBob (n : Nat) : AllNamed (firstItems onlyBob n) := by
  intro candidate hmem path
  rw [firstItems_onlyBob] at hmem
  rw [List.eq_of_mem_replicate hmem, entityId_bobItem]
  simp

/-- Nobody else is found, however often Bob is. -/
theorem not_suffices_onlyBob (n : Nat) : ¬ choir.Suffices "ann" ["cat"] 2 onlyBob n := by
  have hfound : ∀ n, choir.found "ann" ["cat"] (firstItems onlyBob n) = [] ∨
      choir.found "ann" ["cat"] (firstItems onlyBob n) = ["bob"] := by
    intro n
    induction n with
    | zero => exact .inl rfl
    | succ n ih =>
      rw [firstItems_succ rfl, Register.found_concat_of_some entityId_bobItem]
      rcases ih with ih | ih <;> rw [ih]
      · exact .inr rfl
      · exact .inr rfl
  rintro ⟨-, hle⟩
  rcases hfound n with h | h <;> simp [h] at hle

/-- Consuming a stream for two people besides Ann and Cat. -/
def choirConsumption (stream : Ahead) (fuel : Nat) : Session.Part Ahead Unit Bool :=
  Session.consume (choirAlong stream).collaborators .reverse ⟨"ann", 2, [], []⟩ fuel
    (Session.start (choirAlong stream).collaborators (fun _ => .ok none) () "ann" ["cat"])

theorem isLeast_bobAndEve : IsLeast {n | choir.Suffices "ann" ["cat"] 2 bobAndEve n} 2 := by
  refine ⟨⟨fun _ _ => ⟨_, rfl⟩, by decide +kernel⟩, ?_⟩
  rintro n ⟨-, hn⟩
  by_contra hless
  match n with
  | 0 => exact absurd hn (by decide +kernel)
  | 1 => exact absurd hn (by decide +kernel)
  | n + 2 => omega

/-- Behind Bob alone there is room. -/
theorem not_suffices_bob {stream : Ahead} (hbob : stream 0 = .ok (some bobItem)) :
    ∀ m ≤ 1, ¬ choir.Suffices "ann" ["cat"] 2 stream m := by
  rintro m hm ⟨-, hle⟩
  have hfirst : firstItems stream 1 = [bobItem] := firstItems_succ hbob
  match m with
  | 0 =>
    have hnobody : (choir.found "ann" ["cat"] (firstItems stream 0)).length = 0 := rfl
    omega
  | 1 =>
    rw [hfirst] at hle
    exact absurd hle (by decide +kernel)
  | m + 2 => omega

/-- Bob and Eve are enough. A contact that names nobody comes first, or the stream ends first. With
Bob alone, again and again, there is no end. -/
theorem consume_stream_choir :
    EndsWith choir "ann" ["cat"] [] (.ok false) 2 [bobItem, eveItem]
        (choirConsumption bobAndEve 5) ∧
      EndsWith choir "ann" ["cat"] [] (.error (.breach (.namelessPath ⟨.contact, "/a/"⟩))) 2
        [bobItem] (choirConsumption (aheadOf [bobItem, nobodyItem]) 3) ∧
      EndsWith choir "ann" ["cat"] [] (.ok true) 2 [bobItem]
        (choirConsumption (aheadOf [bobItem]) 3) ∧
      ∀ fuel, (choirConsumption onlyBob fuel).answer = none := by
  have hbob : AllNamed [bobItem] := by simp [AllNamed, entityId_bobItem]
  have hboth : AllNamed [bobItem, eveItem] := by
    have heve : eveItem.entityId = .ok (some "eve") := by cbv
    simp [AllNamed, entityId_bobItem, heve]
  refine ⟨?_, ?_, ?_, ?_⟩
  · exact (consume_stream (d := choir) (choirAlong bobAndEve).plays (fun _ => rfl) rfl .reverse
      ⟨"ann", 2, [], []⟩ () "ann" ["cat"]).1 2 isLeast_bobAndEve hboth 5 (by omega)
  · exact (consume_stream (d := choir) (choirAlong (aheadOf [bobItem, nobodyItem])).plays
      (fun _ => rfl) rfl .reverse ⟨"ann", 2, [], []⟩ () "ann" ["cat"]).2.1 1 nobodyItem _
      (fun i hi => ⟨bobItem, by obtain rfl := Nat.lt_one_iff.mp hi; rfl⟩) hbob
      (not_suffices_bob rfl) rfl (by cbv) 3 (by omega)
  · exact (consume_stream (d := choir) (choirAlong (aheadOf [bobItem])).plays
      (fun _ => rfl) rfl .reverse ⟨"ann", 2, [], []⟩ () "ann" ["cat"]).2.2.1 1
      (fun i hi => ⟨bobItem, by obtain rfl := Nat.lt_one_iff.mp hi; rfl⟩) hbob
      (not_suffices_bob rfl) rfl 3 (by omega)
  · exact (consume_stream (d := choir) (choirAlong onlyBob).plays (fun _ => rfl) rfl .reverse
      ⟨"ann", 2, [], []⟩ () "ann" ["cat"]).2.2.2
      (fun n => ⟨hasItems_onlyBob n, allNamed_onlyBob n⟩) not_suffices_onlyBob

end PeopleFeed.Feed
