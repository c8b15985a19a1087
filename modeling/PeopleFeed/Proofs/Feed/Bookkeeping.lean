import PeopleFeed.Proofs.Feed.Consumption
import PeopleFeed.Proofs.Feed.Exchange
import PeopleFeed.Proofs.Feed.Fullness
import PeopleFeed.Proofs.Feed.Naming

/-! What runs enter in the counters. Counters only add up, and a step enters at most one event that
counts: a search result that nobody provides for, somebody who is considered, or a record. -/
namespace PeopleFeed.Feed

variable {σ τ : Type} {c : Collaborators σ} {sh : Shuffler τ} {rq : Request}
  {s t base : State σ τ} {origin : Origin} {id : String} {n : Nat} {env : σ} {shuffler : τ}

namespace Tally

/-- The count under a name. -/
def countOf (t : Tally) (name : String) : Nat :=
  (List.lookup name t).getD 0

theorem total_nil : total [] = 0 := rfl

theorem countOf_nil (name : String) : countOf [] name = 0 := rfl

theorem countOf_cons (k : String) (n : Nat) (rest : Tally) (name : String) :
    countOf ((k, n) :: rest) name = if name = k then n else rest.countOf name := by
  by_cases h : name = k
  · simp [countOf, h]
  · have hk : (name == k) = false := beq_eq_false_iff_ne.2 h
    simp [countOf, List.lookup_cons, h, hk]

theorem countOf_bump (name k : String) (t : Tally) :
    (t.bump name).countOf k = t.countOf k + if k = name then 1 else 0 := by
  induction t with
  | nil => exact (countOf_cons name 1 [] k).trans (by simp [countOf])
  | cons e rest ih =>
    obtain ⟨j, n⟩ := e
    rw [bump]
    by_cases hj : j = name
    · rw [if_pos hj, countOf_cons, countOf_cons, hj]
      split <;> simp
    · rw [if_neg hj, countOf_cons, countOf_cons, ih]
      by_cases hk : k = j
      · simp [hk, hj]
      · simp [hk]

end Tally

namespace Metrics

variable {m : Metrics} {f g : Metrics → Nat}

/-- A counter to which every event adds the same, whatever the counters stand at. -/
structure Additive (f : Metrics → Nat) : Prop where
  zero : f .zero = 0
  record : ∀ m e, f (m.record e) = f m + f (Metrics.zero.record e)

theorem recordAll_cons (m : Metrics) (e : Event) (events : List Event) :
    m.recordAll (e :: events) = (m.record e).recordAll events := rfl

theorem recordAll_append (m : Metrics) (a b : List Event) :
    m.recordAll (a ++ b) = (m.recordAll a).recordAll b :=
  List.foldl_append

theorem Additive.recordAll (h : Additive f) (m : Metrics) (events : List Event) :
    f (m.recordAll events) = f m + f (Metrics.zero.recordAll events) := by
  induction events generalizing m with
  | nil => simp [Metrics.recordAll, h.zero]
  | cons e events ih =>
    rw [recordAll_cons, recordAll_cons, ih, ih (Metrics.zero.record e), h.record m,
      Nat.add_assoc]

theorem Additive.add (hf : Additive f) (hg : Additive g) : Additive fun m => f m + g m where
  zero := by rw [hf.zero, hg.zero]
  record m e := by
    rw [hf.record m, hg.record m]
    omega

theorem additive_runs : Additive (·.runs) :=
  ⟨rfl, fun m e => by cases e <;> simp [record, zero]⟩

theorem additive_considered : Additive (·.considered) :=
  ⟨rfl, fun m e => by cases e <;> simp [record, zero]⟩

theorem additive_emitted : Additive (·.emitted) :=
  ⟨rfl, fun m e => by cases e <;> simp [record, zero]⟩

theorem additive_denied : Additive (·.denied) :=
  ⟨rfl, fun m e => by cases e <;> simp [record, zero]⟩

theorem additive_shortfalls : Additive (·.shortfalls) :=
  ⟨rfl, fun m e => by cases e <;> simp [record, zero]⟩

theorem additive_failures : Additive (·.failures) :=
  ⟨rfl, fun m e => by cases e <;> simp [record, zero]⟩

theorem additive_unrecognized_total : Additive (·.unrecognized.total) :=
  ⟨rfl, fun m e => by cases e <;> simp [record, zero, Tally.total_bump, Tally.total_nil]⟩

theorem additive_byPhase_countOf (name : String) : Additive (·.byPhase.countOf name) :=
  ⟨rfl, fun m e => by cases e <;> simp [record, zero, Tally.countOf_bump, Tally.countOf_nil]⟩

/-- Every record is counted under its phase. -/
theorem byPhase_total_recordAll (events : List Event) :
    (zero.recordAll events).byPhase.total = (zero.recordAll events).emitted := by
  induction events using List.reverseRecOn with
  | nil => rfl
  | append_singleton events e ih =>
    have hlast : zero.recordAll (events ++ [e]) = (zero.recordAll events).record e :=
      recordAll_append ..
    rw [hlast]
    cases e <;> simp [record, Tally.total_bump, ih]

end Metrics

/-- Whether an event counts. -/
def Event.isCounted : Event → Bool
  | .noted _ | .skipped .. | .ungrouped _ | .drawn .. => false
  | _ => true

/-- The events that count. -/
def counted (events : List Event) : List Event :=
  events.filter Event.isCounted

@[simp] theorem counted_append (a b : List Event) : counted (a ++ b) = counted a ++ counted b :=
  List.filter_append ..

@[simp] theorem counted_noted (notes : List Log.Note) : counted (notes.map Event.noted) = [] := by
  simp [counted, Event.isCounted]

@[simp] theorem counted_singleton (e : Event) :
    counted [e] = if e.isCounted then [e] else [] := by
  simp [counted, List.filter_cons]

theorem recordAll_counted (m : Metrics) (events : List Event) :
    m.recordAll (counted events) = m.recordAll events := by
  induction events generalizing m with
  | nil => rfl
  | cons e events ih =>
    rw [Metrics.recordAll_cons, ← ih, counted, List.filter_cons]
    cases e <;> rfl

/-- Whether an event tells that somebody is considered in a phase. -/
def Event.considers (phase : Phase) : Event → Bool
  | .considered p => p = phase
  | _ => false

/-- How often somebody was considered in a phase. -/
def consideredIn (phase : Phase) (events : List Event) : Nat :=
  events.countP (Event.considers phase)

theorem consideredIn_append (phase : Phase) (a b : List Event) :
    consideredIn phase (a ++ b) = consideredIn phase a + consideredIn phase b :=
  List.countP_append

theorem consideredIn_counted (phase : Phase) (events : List Event) :
    consideredIn phase (counted events) = consideredIn phase events := by
  rw [consideredIn, counted, List.countP_filter]
  refine List.countP_congr fun e _ => ?_
  cases e <;> simp [Event.considers, Event.isCounted]

/-- Whether a search result was taken off the stream. -/
def Exchange.isItem : Exchange → Bool
  | ⟨.pull, .ok (some _)⟩ => true
  | _ => false

/-- Whether the next step takes a search result off the stream. -/
def State.takes (c : Collaborators σ) (rq : Request) (s : State σ τ) : Bool :=
  (s.exchange? c rq).any Exchange.isItem

namespace State

theorem takes_of_none (hn : s.nextCall rq = none) : s.takes c rq = false := by
  rw [takes, exchange?_of_none hn]
  rfl

theorem takes_of_some {call : Call} {answer : Except Fault call.Answer}
    (hn : s.nextCall rq = some call) (ha : (c.respond call s.env).answer = answer) :
    s.takes c rq = Exchange.isItem ⟨call, answer⟩ := by
  rw [takes, exchange?_of_some hn ha]
  rfl

/-- Nothing is taken off the stream but where it is pulled. -/
theorem takes_of_stage_ne (hs : s.stage ≠ .pulling) : s.takes c rq = false := by
  have hcall : s.nextCall rq ≠ some .pull := fun h => hs (nextCall_eq_pull_iff.1 h).1
  cases hn : s.nextCall rq with
  | none => exact takes_of_none hn
  | some call =>
    rw [takes_of_some hn rfl]
    cases call with
    | pull => exact absurd hn hcall
    | _ => rfl

end State

/-- One if somebody is about to be looked up. -/
def Stage.pending : Stage → Nat
  | .looking .. => 1
  | _ => 0

theorem Origin.next_pending (origin : Origin) : origin.next.pending = 0 := by
  cases origin <;> rfl

/-- Whether a run has ended by a breach of the contract. -/
def Stage.isBreached : Stage → Bool
  | .halted (some (.breach _)) => true
  | _ => false

/-- The events that count in a step. A search result that is taken off the stream is entered as
unrecognized or as considered, unless it breaks the contract. -/
inductive Entry (c : Collaborators σ) (rq : Request) (s t : State σ τ) : List Event → Prop
  | nothing (hr : t.records = s.records) (hp : t.stage.pending = 0)
      (ht : s.takes c rq = true → t.stage.isBreached = true) : Entry c rq s t []
  | unrecognized {candidate : Search.Candidate} (hr : t.records = s.records)
      (hp : t.stage.pending = 0) (ht : s.takes c rq = true) :
      Entry c rq s t [.unrecognized candidate]
  | considered {origin : Origin} (hr : t.records = s.records)
      (ht : s.takes c rq = decide (origin.phase = .primary)) :
      Entry c rq s t [.considered origin.phase]
  | emitted {origin : Origin} {record : Record} (hp : s.stage.pending = 1)
      (hr : t.records = s.records ++ [record]) (hp' : t.stage.pending = 0) :
      Entry c rq s t [.emitted origin.phase]

theorem Offer.takes (h : Offer c rq s origin id base) :
    s.takes c rq = decide (origin.phase = .primary) := by
  cases h with
  | stream hs hq ha => exact State.takes_of_some (by simp [State.nextCall, hs, hq]) ha
  | pool hs => exact State.takes_of_stage_ne (by simp [hs])

theorem Offer.counted (h : Offer c rq s origin id base) :
    Feed.counted base.events = Feed.counted s.events := by
  cases h with
  | stream => simp [State.asked]
  | pool => rfl

theorem entry_transition (h : Transition c sh rq s t) :
    ∃ entry, counted t.events = counted s.events ++ entry ∧ Entry c rq s t entry := by
  cases h with
  | rested hst =>
    have htakes : s.takes c rq = false := State.takes_of_stage_ne (by simp [hst])
    exact ⟨[], by simp, .nothing rfl (by simp [hst, Stage.pending]) (by simp [htakes])⟩
  | @faulted call f hn ha =>
    have htakes : s.takes c rq = false := by
      rw [State.takes_of_some hn ha]
      cases call <;> rfl
    exact ⟨[], by simp [State.asked, State.goto], .nothing rfl rfl (by simp [htakes])⟩
  | met hst hq =>
    have htakes : s.takes c rq = false := by
      refine State.takes_of_none ?_
      rcases hst with hst | hst <;> simp [State.nextCall, hst, Nat.not_lt.2 hq]
    exact ⟨[], by simp [State.goto], .nothing rfl rfl (by simp [htakes])⟩
  | dried hst hq ha =>
    have htakes : s.takes c rq = false :=
      State.takes_of_some (by simp [State.nextCall, hst, hq]) ha
    exact ⟨[], by simp [State.asked, State.goto], .nothing rfl rfl (by simp [htakes])⟩
  | nameless => exact ⟨[], by simp [State.asked, State.goto], .nothing rfl rfl fun _ => rfl⟩
  | refused ho =>
    exact ⟨[], by simp [State.goto, ho.counted], .nothing ho.records rfl fun _ => rfl⟩
  | @unrecognized candidate hst hq ha =>
    exact ⟨[.unrecognized candidate],
      by simp [State.asked, State.goto, State.log, Event.isCounted],
      .unrecognized rfl rfl (State.takes_of_some (by simp [State.nextCall, hst, hq]) ha)⟩
  | @passedOver _ origin _ ho | @chosen _ origin _ ho =>
    exact ⟨[.considered origin.phase], by simp [State.goto, State.log, ho.counted, Event.isCounted],
      .considered ho.records ho.takes⟩
  | @emitted origin _ _ hst =>
    exact ⟨[.emitted origin.phase], by simp [State.asked, Event.isCounted],
      .emitted (by simp [hst, Stage.pending]) rfl origin.next_pending⟩
  | @skipped origin _ _ hst =>
    have htakes : s.takes c rq = false := State.takes_of_stage_ne (by simp [hst])
    exact ⟨[], by simp [State.asked, State.goto, State.log, Event.isCounted],
      .nothing rfl origin.next_pending (by simp [htakes])⟩
  | listed hst =>
    have htakes : s.takes c rq = false := State.takes_of_stage_ne (by simp [hst])
    refine ⟨[], ?_, ?_⟩
    · unfold State.startGroups
      split <;> simp [State.asked, State.goto, State.log, Event.isCounted]
    · unfold State.startGroups
      split <;> exact .nothing rfl rfl (by simp [htakes])
  | _ hst =>
    have htakes : s.takes c rq = false := State.takes_of_stage_ne (by simp [hst])
    exact ⟨[], by simp [State.asked, State.goto, State.log, State.draw, State.finishPool,
      Event.isCounted], .nothing rfl rfl (by simp [htakes])⟩

/-- What the events of a run so far count up to. -/
def State.counters (s : State σ τ) : Metrics :=
  .recordAll .zero s.events

theorem counters_of_counted {entry : List Event}
    (h : counted t.events = counted s.events ++ entry) :
    t.counters = s.counters.recordAll entry := by
  rw [State.counters, ← recordAll_counted, h, Metrics.recordAll_append, recordAll_counted]
  rfl

/-- The counters of what happens before and after a run, put together. -/
def Metrics.around (m : Metrics) : Nat :=
  m.runs + m.denied + m.shortfalls + m.failures

theorem Entry.around {entry : List Event} (h : Entry c rq s t entry) (m : Metrics) :
    (m.recordAll entry).around = m.around := by
  cases h <;> rfl

theorem Stage.pending_le_one (stage : Stage) : stage.pending ≤ 1 := by
  cases stage with
  | looking => exact le_rfl
  | _ => exact Nat.zero_le 1

/-- Whoever is considered is so in one of the two phases. -/
theorem Entry.phases {entry : List Event} (h : Entry c rq s t entry) :
    (Metrics.zero.recordAll entry).considered =
      consideredIn .primary entry + consideredIn .fallback entry := by
  cases h with
  | @considered origin => cases origin <;> rfl
  | _ => rfl

theorem consideredIn_of_counted {entry : List Event} (phase : Phase)
    (h : counted t.events = counted s.events ++ entry) :
    consideredIn phase t.events = consideredIn phase s.events + consideredIn phase entry := by
  rw [← consideredIn_counted, h, consideredIn_append, consideredIn_counted]

/-- While a run goes on, neither runs nor their ends are counted, each record is counted once, and
nobody is emitted who was not considered. -/
structure Booked (s : State σ τ) : Prop where
  around : s.counters.around = 0
  emitted : s.counters.emitted = s.records.length
  considered : s.counters.emitted + s.stage.pending ≤ s.counters.considered
  phases : s.counters.considered = consideredIn .primary s.events + consideredIn .fallback s.events

theorem booked_initial (env : σ) (shuffler : τ) (requester : String) :
    Booked (.initial env shuffler requester) :=
  ⟨rfl, rfl, le_rfl, rfl⟩

theorem booked_transition (h : Transition c sh rq s t) (hs : Booked s) : Booked t := by
  obtain ⟨entry, hevents, hentry⟩ := entry_transition h
  have hm := counters_of_counted hevents
  have haround : t.counters.around = 0 := by rw [hm, hentry.around, hs.around]
  have hphases : t.counters.considered =
      consideredIn .primary t.events + consideredIn .fallback t.events := by
    rw [hm, Metrics.additive_considered.recordAll, hentry.phases, hs.phases,
      consideredIn_of_counted .primary hevents, consideredIn_of_counted .fallback hevents]
    omega
  obtain ⟨-, hemitted, hconsidered, -⟩ := hs
  cases hentry with
  | nothing hr hp =>
    have hsame : t.counters = s.counters := hm
    refine ⟨haround, ?_, ?_, hphases⟩
    · rw [hsame, hr, hemitted]
    · rw [hsame]
      omega
  | unrecognized hr hp =>
    have he : t.counters.emitted = s.counters.emitted := by rw [hm]; rfl
    have hc : t.counters.considered = s.counters.considered := by rw [hm]; rfl
    refine ⟨haround, ?_, ?_, hphases⟩
    · rw [he, hr, hemitted]
    · omega
  | considered hr =>
    have he : t.counters.emitted = s.counters.emitted := by rw [hm]; rfl
    have hc : t.counters.considered = s.counters.considered + 1 := by rw [hm]; rfl
    have hpending := t.stage.pending_le_one
    refine ⟨haround, ?_, ?_, hphases⟩
    · rw [he, hr, hemitted]
    · omega
  | emitted hp hr hp' =>
    have he : t.counters.emitted = s.counters.emitted + 1 := by rw [hm]; rfl
    have hc : t.counters.considered = s.counters.considered := by rw [hm]; rfl
    refine ⟨haround, ?_, ?_, hphases⟩
    · rw [he, hr, hemitted, List.length_append, List.length_singleton]
    · omega

theorem booked_run (c : Collaborators σ) (sh : Shuffler τ) (rq : Request) (env : σ) (shuffler : τ)
    (n : Nat) : Booked (run c sh rq n (.initial env shuffler rq.requester)) :=
  run_induction (fun _ _ => booked_transition) (booked_initial env shuffler rq.requester) n

/-- How many search results were taken off the stream. -/
def itemsIn (exchanged : List Exchange) : Nat :=
  exchanged.countP Exchange.isItem

theorem itemsIn_succ (c : Collaborators σ) (sh : Shuffler τ) (rq : Request) (n : Nat)
    (s : State σ τ) :
    itemsIn (exchanges c sh rq (n + 1) s) =
      itemsIn (exchanges c sh rq n s) + ((run c sh rq n s).takes c rq).toNat := by
  rw [exchanges_succ, itemsIn, itemsIn, List.countP_append, State.takes]
  congr 1
  cases h : (run c sh rq n s).exchange? c rq with
  | none => rfl
  | some x => cases hx : x.isItem <;> simp [hx]

/-- Each search result that is taken off the stream is entered once. -/
theorem Entry.items {entry : List Event} (h : Entry c rq s t entry)
    (ht : t.stage.isBreached = false) :
    (Metrics.zero.recordAll entry).unrecognized.total + consideredIn .primary entry =
      (s.takes c rq).toNat := by
  cases h with
  | nothing hr hp hnot =>
    have htakes : s.takes c rq = false := by
      by_contra hne
      rw [hnot (Bool.eq_true_of_not_eq_false hne)] at ht
      cases ht
    rw [htakes]
    rfl
  | unrecognized hr hp htakes =>
    rw [htakes]
    exact Tally.total_bump ..
  | @considered origin hr htakes =>
    rw [htakes]
    cases origin <;> rfl
  | emitted hp =>
    have hst : s.stage ≠ .pulling := by
      intro hst
      simp [hst, Stage.pending] at hp
    rw [State.takes_of_stage_ne hst]
    rfl

theorem items_transition (h : Transition c sh rq s t) (ht : t.stage.isBreached = false) :
    t.counters.unrecognized.total + consideredIn .primary t.events =
      s.counters.unrecognized.total + consideredIn .primary s.events +
        (s.takes c rq).toNat := by
  obtain ⟨entry, hevents, hentry⟩ := entry_transition h
  have hitems := hentry.items ht
  have hu : t.counters.unrecognized.total =
      s.counters.unrecognized.total + (Metrics.zero.recordAll entry).unrecognized.total := by
    rw [counters_of_counted hevents]
    exact Metrics.additive_unrecognized_total.recordAll ..
  have hc := consideredIn_of_counted .primary hevents
  omega

/-- Unless a run ends by a breach, each search result that it takes off the stream counts as
unrecognized or as considered in the primary phase. -/
theorem items_run (c : Collaborators σ) (sh : Shuffler τ) (rq : Request) (env : σ) (shuffler : τ)
    (n : Nat)
    (hn : (run c sh rq n (.initial env shuffler rq.requester)).stage.isBreached = false) :
    (run c sh rq n (.initial env shuffler rq.requester)).counters.unrecognized.total +
        consideredIn .primary (run c sh rq n (.initial env shuffler rq.requester)).events =
      itemsIn (exchanges c sh rq n (.initial env shuffler rq.requester)) := by
  induction n with
  | zero => rfl
  | succ n ih =>
    rw [run_succ_last] at hn ⊢
    -- A run that has ended by a breach stays so.
    have hbefore :
        (run c sh rq n (.initial env shuffler rq.requester)).stage.isBreached = false := by
      cases hst : (run c sh rq n (.initial env shuffler rq.requester)).stage with
      | halted f =>
        rw [step_of_halted hst, hst] at hn
        exact hn
      | _ => rfl
    rw [items_transition (transition_step ..) hn, ih hbefore, itemsIn_succ]

/-- As long as the run is busy with its stream, all records are found on it. -/
theorem tallied_primary
    (hn : ∀ j < n, (run c sh rq j (.initial env shuffler rq.requester)).stage.isPrimary = true) :
    Tallied (run c sh rq n (.initial env shuffler rq.requester)).records
      (run c sh rq n (.initial env shuffler rq.requester)) := by
  induction n with
  | zero => exact ⟨List.prefix_rfl, rfl⟩
  | succ n ih =>
    have hst : (run c sh rq n (.initial env shuffler rq.requester)).stage.isFilling = false := by
      have hp := hn n (Nat.lt_succ_self n)
      cases hst : (run c sh rq n (.initial env shuffler rq.requester)).stage with
      | looking origin id => cases origin <;> simp_all [Stage.isPrimary, Stage.isFilling]
      | filling | halted => simp [hst, Stage.isPrimary] at hp
      | _ => rfl
    rw [run_succ_last]
    exact tallied_found (transition_step ..) hst (ih fun j hj => hn j (by omega))

/-- Behind the stream, records are drawn. -/
theorem tallied_secondary {found : List Record} (h : Transition c sh rq s t)
    (hst : s.stage.isPrimary = false) (hs : Tallied found s) : Tallied found t := by
  rcases emission_transition h with ⟨hrecords, hphases⟩ | ⟨origin, _, _, hlook, hrecords, hphases⟩
  · exact hs.of_eq hrecords hphases
  · cases origin with
    | stream => simp [hlook, Stage.isPrimary] at hst
    | pool => exact hs.fallback hrecords hphases

/-- The records that count as primary are those of the consumed stream. -/
theorem tallied_consumed (c : Collaborators σ) (sh : Shuffler τ) (rq : Request) (env : σ)
    (shuffler : τ) (n : Nat) :
    Tallied (consumed c sh rq n (.initial env shuffler rq.requester)).records
      (run c sh rq n (.initial env shuffler rq.requester)) := by
  obtain ⟨m, hmn, hrun, hbefore, hat⟩ := exists_consumed (s := .initial env shuffler rq.requester)
    c sh rq rfl n
  have hfound := tallied_primary hbefore
  rw [hrun]
  rcases hat with ⟨-, rfl⟩ | hat
  · exact hfound
  · obtain ⟨k, rfl⟩ := Nat.exists_eq_add_of_le hmn
    rw [run_add]
    exact (run_induction
      (P := fun t => t.stage.isPrimary = false ∧
        Tallied (run c sh rq m (.initial env shuffler rq.requester)).records t)
      (fun _ _ h ht => ⟨secondary_transition h ht.1, tallied_secondary h ht.1 ht.2⟩)
      ⟨isPrimary_of_isConsumed hat, hfound⟩ k).2

theorem countOf_foldl_bump (phases : List Phase) (t : Tally) (name : String) :
    Tally.countOf (phases.foldl (fun tally phase => Tally.bump phase.name tally) t) name =
      t.countOf name + phases.countP fun phase => name = phase.name := by
  induction phases generalizing t with
  | nil => rfl
  | cons phase phases ih =>
    rw [List.foldl_cons, ih, Tally.countOf_bump, List.countP_cons]
    by_cases h : name = phase.name
    · simp [h]
      omega
    · simp [h]

/-- The records found on the stream and those drawn are counted under their names. -/
theorem Tallied.countOf {found : List Record} (h : Tallied found s) :
    s.counters.byPhase.countOf Phase.primary.name = found.length ∧
      s.counters.byPhase.countOf Phase.fallback.name = s.records.length - found.length := by
  have hname : Phase.primary.name ≠ Phase.fallback.name := by decide
  have hphases : s.counters.byPhase =
      (List.replicate found.length Phase.primary ++
        List.replicate (s.records.length - found.length) Phase.fallback).foldl
          (fun tally phase => Tally.bump phase.name tally) [] := by
    rw [State.counters, byPhase_recordAll, h.phases]
    rfl
  constructor <;> rw [hphases, countOf_foldl_bump, Tally.countOf_nil, List.countP_append]
  · simp [List.countP_replicate, hname]
  · simp [List.countP_replicate, hname.symm]

end PeopleFeed.Feed
