import PeopleFeed.Feed.Metrics
import PeopleFeed.Proofs.Feed.Relisting

/-! Chance decides who of the requester's groups is shown, but not how many are. The groups are all
pooled whatever their order, and of those drawn the feed takes as many as fit. -/
namespace PeopleFeed.Feed

variable {σ τ τ' : Type} {c : Collaborators σ} {sh : Shuffler τ} {sh' : Shuffler τ'} {rq : Request}
  {w : World} {At : σ → Ahead → Prop} {ahead : Ahead} {s t : State σ τ} {s' t' : State σ τ'}
  {found : List Record} {n : Nat} {env : σ} {p : Policy} {quota : Count} {o : Order}

/-- The phase of the record whose emission an event tells. -/
def Event.emittedPhase? : Event → Option Phase
  | .emitted phase => some phase
  | _ => none

/-- The phases of the records that were emitted, in their order. -/
def emittedPhases (events : List Event) : List Phase :=
  events.filterMap Event.emittedPhase?

@[simp] theorem emittedPhases_append (a b : List Event) :
    emittedPhases (a ++ b) = emittedPhases a ++ emittedPhases b :=
  List.filterMap_append

@[simp] theorem emittedPhases_singleton (e : Event) :
    emittedPhases [e] = e.emittedPhase?.toList := by
  cases e <;> rfl

@[simp] theorem emittedPhases_noted (notes : List Log.Note) :
    emittedPhases (notes.map Event.noted) = [] := by
  simp [emittedPhases, Event.emittedPhase?]

/-- Notes do not count. -/
theorem emittedPhases_ownEvents (events : List Event) :
    emittedPhases (ownEvents events) = emittedPhases events := by
  rw [emittedPhases, ownEvents, List.filterMap_filter]
  congr 1
  funext e
  cases e <;> rfl

/-- The records by phase are counted by what was emitted and nothing else. -/
theorem byPhase_recordAll (m : Metrics) (events : List Event) :
    (m.recordAll events).byPhase =
      (emittedPhases events).foldl (fun tally phase => tally.bump phase.name) m.byPhase := by
  induction events generalizing m with
  | nil => rfl
  | cons e events ih =>
    have hcons : m.recordAll (e :: events) = (m.record e).recordAll events := rfl
    rw [hcons, ih]
    cases e <;> rfl

/-- A step emits at most one record, that of the candidate that is looked up. -/
theorem emission_transition (h : Transition c sh rq s t) :
    t.records = s.records ∧ emittedPhases t.events = emittedPhases s.events ∨
      ∃ origin id record, s.stage = .looking origin id ∧ t.records = s.records ++ [record] ∧
        emittedPhases t.events = emittedPhases s.events ++ [origin.phase] := by
  cases h with
  | emitted hst =>
    exact .inr ⟨_, _, _, hst, rfl, by simp [State.asked, Event.emittedPhase?]⟩
  | refused ho | passedOver ho | chosen ho =>
    left
    cases ho <;> simp [State.goto, State.log, State.asked, Event.emittedPhase?]
  | listed =>
    left
    unfold State.startGroups
    split <;> simp [State.goto, State.log, State.asked, Event.emittedPhase?]
  | _ =>
    left
    simp [State.goto, State.log, State.asked, State.draw, State.finishPool, Event.emittedPhase?]

/-- The first records, found on the stream, count as primary, and those behind them as drawn. -/
structure Tallied (found : List Record) (s : State σ τ) : Prop where
  begins : found <+: s.records
  phases : emittedPhases s.events = List.replicate found.length .primary ++
    List.replicate (s.records.length - found.length) .fallback

namespace Tallied

theorem of_eq (h : Tallied found s) (hrecords : t.records = s.records)
    (hphases : emittedPhases t.events = emittedPhases s.events) : Tallied found t :=
  ⟨hrecords ▸ h.begins, by rw [hphases, hrecords, h.phases]⟩

/-- Somebody found on the stream. -/
theorem primary {record : Record} (h : Tallied s.records s)
    (hrecords : t.records = s.records ++ [record])
    (hphases : emittedPhases t.events = emittedPhases s.events ++ [.primary]) :
    Tallied t.records t := by
  refine ⟨List.prefix_rfl, ?_⟩
  rw [hphases, h.phases, hrecords]
  simp [List.replicate_succ']

/-- Somebody drawn. -/
theorem fallback {record : Record} (h : Tallied found s)
    (hrecords : t.records = s.records ++ [record])
    (hphases : emittedPhases t.events = emittedPhases s.events ++ [.fallback]) :
    Tallied found t := by
  refine ⟨?_, ?_⟩
  · rw [hrecords]
    exact h.begins.trans (List.prefix_append _ _)
  · have hle := h.begins.length_le
    have hlength : t.records.length - found.length =
        s.records.length - found.length + 1 := by
      rw [hrecords, List.length_append, List.length_singleton]
      omega
    rw [hphases, h.phases, hlength, List.replicate_succ', List.append_assoc]

end Tallied

/-- Filling a feed adds to those drawn. -/
theorem tallied_filling (h : Transition c sh rq s t) (hst : s.stage.isFilling = true)
    (hs : Tallied found s) : Tallied found t := by
  rcases emission_transition h with ⟨hrecords, hphases⟩ | ⟨origin, _, _, hlook, hrecords, hphases⟩
  · exact hs.of_eq hrecords hphases
  · cases origin with
    | stream => simp [hlook, Stage.isFilling] at hst
    | pool => exact hs.fallback hrecords hphases

theorem tallied_filling_run (c : Collaborators σ) (sh : Shuffler τ) (rq : Request)
    (hst : s.stage.isFilling = true) (hs : Tallied found s) (n : Nat) :
    Tallied found (run c sh rq n s) :=
  (run_induction (P := fun t => t.stage.isFilling = true ∧ Tallied found t)
    (fun _ _ h ht => ⟨(filling_transition h ht.1).1, tallied_filling h ht.1 ht.2⟩)
    ⟨hst, hs⟩ n).2

/-- Before a feed is filled, all that it shows was found on the stream. -/
theorem tallied_found (h : Transition c sh rq s t) (hst : s.stage.isFilling = false)
    (hs : Tallied s.records s) : Tallied t.records t := by
  rcases emission_transition h with ⟨hrecords, hphases⟩ | ⟨origin, _, _, hlook, hrecords, hphases⟩
  · rw [hrecords]
    exact hs.of_eq hrecords hphases
  · cases origin with
    | stream => exact hs.primary hrecords hphases
    | pool => simp [hlook, Stage.isFilling] at hst

/-- It is settled which records count as primary: all that there are, unless the feed is being
filled. -/
def Classified (s : State σ τ) : Prop :=
  ∃ found, Tallied found s ∧ (s.stage.isFilling = false → found = s.records)

theorem classified_initial (env : σ) (shuffler : τ) (requester : String) :
    Classified (.initial env shuffler requester) :=
  ⟨[], ⟨List.prefix_rfl, rfl⟩, fun _ => rfl⟩

theorem classified_transition (h : Transition c sh rq s t) (hs : Classified s) : Classified t := by
  obtain ⟨found, htallied, hfound⟩ := hs
  cases hst : s.stage.isFilling with
  | true =>
    refine ⟨found, tallied_filling h hst htallied, fun ht => ?_⟩
    simp [(filling_transition h hst).1] at ht
  | false =>
    obtain rfl := hfound hst
    exact ⟨t.records, tallied_found h hst htallied, fun _ => rfl⟩

theorem tallied_run (c : Collaborators σ) (sh : Shuffler τ) (rq : Request) (env : σ)
    (shuffler : τ) (n : Nat) :
    ∃ found, Tallied found (run c sh rq n (.initial env shuffler rq.requester)) := by
  have hrun : Classified (run c sh rq n (.initial env shuffler rq.requester)) :=
    run_induction (fun _ _ => classified_transition)
      (classified_initial env shuffler rq.requester) n
  obtain ⟨found, h, -⟩ := hrun
  exact ⟨found, h⟩

/-- Two runs have ended with equally many records, those found on the stream being the same. If
there is room left, they show the same people. -/
structure FilledAlike (quota : Nat) (t : State σ τ) (t' : State σ τ') : Prop where
  stage : t.stage = t'.stage
  states : t.states = t'.states
  size : t.ledger.size = t'.ledger.size
  processed : t.ledger.size < quota →
    ∀ id, id ∈ t.ledger.processed ↔ id ∈ t'.ledger.processed
  found : ∃ found, Tallied found t ∧ Tallied found t'

section

variable {R : σ → σ → Prop}

theorem Tallied.beside (h : Tallied found s) (hb : Beside R s s') : Tallied found s' := by
  have hphases : emittedPhases s'.events = emittedPhases s.events := by
    rw [← emittedPhases_ownEvents, ← hb.events, emittedPhases_ownEvents]
  exact ⟨hb.records ▸ h.begins, by rw [hphases, h.phases, hb.records]⟩

theorem FilledAlike.of_beside (hb : Beside R t t') (h : Tallied found t) (quota : Nat) :
    FilledAlike quota t t' where
  stage := hb.stage
  states := hb.states
  size := by rw [hb.ledger]
  processed _ id := by rw [hb.ledger]
  found := ⟨found, h, h.beside hb⟩

end

/-- A run that has pooled the groups ends with those drawn whom it may emit, as far as they fit. -/
theorem leads_of_gathered {d : Register} (sh : Shuffler τ) (hw : Plays c w At)
    (hfind : ∀ id, w.answer (.find id) = .ok (d.find id)) (hs : s.stage = .grouping [])
    (he : At s.env ahead) (hle : s.ledger.size ≤ rq.quota) (hnodup : s.pool.Nodup)
    (hnamed : "" ∉ s.pool) (h : Tallied found s) :
    ∃ (t : State σ τ) (drawn : List String), Leads c sh rq s t ∧ t.stage = .halted none ∧
      t.states = s.states ∧ Tallied found t ∧ drawn.Perm s.pool ∧
      t.ledger.processed = s.ledger.processed ++
        (drawn.filter fun id => s.ledger.isEligible id && d.isPerson id).take
          (rq.quota - s.ledger.size) := by
  have hperm : (sh.shuffle s.shuffler (State.sortedPool s.pool)).1.Perm s.pool :=
    (sh.perm ..).trans (State.sortedPool_perm _)
  obtain ⟨t, ⟨n, hn⟩, hst, hprocessed⟩ := leads_filling (s := s.draw sh) sh hw hfind _ rfl he hle
    (hperm.nodup_iff.2 hnodup) fun hmem => hnamed (hperm.mem_iff.1 hmem)
  refine ⟨t, _, (Leads.of_step (step_of_gathered c sh rq hs)).trans ⟨n, hn⟩, hst, ?_, ?_, hperm,
    hprocessed⟩
  · rw [← hn]
    exact (filling_run c sh rq rfl n).2
  · have hdraw : Tallied found (s.draw sh) := h.of_eq rfl rfl
    rw [← hn]
    exact tallied_filling_run c sh rq rfl hdraw n

/-- Two runs that have pooled the same end equally full, whatever they draw first. -/
theorem filledAlike_of_gathered {d : Register} {shuffler : τ} {shuffler' : τ'}
    (hw : Plays c w At) (hfind : ∀ id, w.answer (.find id) = .ok (d.find id))
    (hg : Gathered (SameAhead At At) sh sh' shuffler shuffler' s s')
    (hle : s.ledger.size ≤ rq.quota) (h : Tallied found s) :
    ∃ t t', Leads c sh rq s t ∧ Leads c sh' rq s' t' ∧ t.stage = .halted none ∧
      FilledAlike rq.quota t t' := by
  obtain ⟨ahead, he, he'⟩ := hg.beside.env
  have hb := hg.beside
  obtain ⟨t, drawn, hlead, hst, hstates, ht, hperm, hprocessed⟩ :=
    leads_of_gathered sh hw hfind hg.stage he hle hg.nodup hg.named h
  obtain ⟨t', drawn', hlead', hst', hstates', ht', hperm', hprocessed'⟩ :=
    leads_of_gathered sh' hw hfind (hb.stage.symm.trans hg.stage) he' (hb.ledger ▸ hle)
      (hb.pool.nodup_iff.1 hg.nodup) (fun hmem => hg.named (hb.pool.mem_iff.2 hmem)) (h.beside hb)
  rw [← hb.ledger] at hprocessed'
  have hdrawn : drawn.Perm drawn' := hperm.trans (hb.pool.trans hperm'.symm)
  have hshown := hdrawn.filter fun id => s.ledger.isEligible id && d.isPerson id
  refine ⟨t, t', hlead, hlead', hst, ?_⟩
  constructor
  · exact hst.trans hst'.symm
  · rw [hstates, hstates', hb.states]
  · simp only [Ledger.size, hprocessed, hprocessed', List.length_append, List.length_take,
      hshown.length_eq]
  · intro hroom id
    -- With room left nobody drawn was left out.
    have hall : (drawn.filter fun id => s.ledger.isEligible id && d.isPerson id).length ≤
        rq.quota - s.ledger.size := by
      simp only [Ledger.size, hprocessed, List.length_append, List.length_take] at hroom ⊢
      omega
    rw [hprocessed, hprocessed', List.take_of_length_le hall,
      List.take_of_length_le (hshown.length_eq ▸ hall), List.mem_append, List.mem_append,
      hshown.mem_iff]
  · exact ⟨found, ht, ht'⟩

/-- Worlds whose directory always answers. -/
theorem reordered_self (h : ∀ call : Call, call.isLookup = true → ∃ a, w.answer call = .ok a)
    (requester : String) : Reordered w w requester where
  stream := rfl
  connected := rfl
  find _ := rfl
  principals e _ _ := by
    obtain ⟨principals, hp⟩ := h (.principals e.id) rfl
    exact ⟨principals, principals, hp, hp, .rfl, fun principal _ => h (.find principal) rfl⟩
  members group := by
    obtain ⟨members, hm⟩ := h (.members group) rfl
    exact ⟨members, members, hm, hm, fun _ => Iff.rfl⟩

/-- If a run ends, so does one that shuffles otherwise, and it is equally full. -/
theorem filledAlike_run (rq : Request) (hw : Plays c w At) (he : At env ahead)
    (hlookup : ∀ call : Call, call.isLookup = true → ∃ a, w.answer call = .ok a)
    (sh : Shuffler τ) (sh' : Shuffler τ') (shuffler : τ) (shuffler' : τ') {f : Option Fault}
    (hend : (run c sh rq n (.initial env shuffler rq.requester)).stage = .halted f) :
    ∃ t', Leads c sh' rq (.initial env shuffler' rq.requester) t' ∧
      FilledAlike rq.quota (run c sh rq n (.initial env shuffler rq.requester)) t' := by
  have hfind (id : Option String) : w.answer (.find id) = .ok (w.register.find id) := by
    obtain ⟨found, ha⟩ := hlookup (.find id) rfl
    exact World.find_register ha
  rcases beside_or_gathered (reordered_self hlookup rq.requester) hw hw sh sh' ⟨ahead, he, he⟩
    shuffler shuffler' with hb | ⟨m, hg⟩
  · obtain ⟨found, ht⟩ := tallied_run c sh rq env shuffler n
    exact ⟨_, ⟨n, rfl⟩, .of_beside (hb n) ht rq.quota⟩
  · obtain ⟨found, ht⟩ := tallied_run c sh rq env shuffler m
    obtain ⟨t, t', hlead, hlead', hst, hfilled⟩ := filledAlike_of_gathered hw hfind hg
      (sound_run c sh rq env shuffler m).size_le ht
    obtain rfl := (Leads.trans ⟨m, rfl⟩ hlead).eq_of_halted hst hend
    exact ⟨t', Leads.trans ⟨m, rfl⟩ hlead', hfilled⟩

theorem emittedPhases_closingEvents (p : Policy) (quota : Count) (s : State σ τ) :
    emittedPhases (closingEvents p quota s) = [] := by
  simp only [closingEvents]
  split
  · split <;> rfl
  · split <;> rfl
  · rfl
  · rfl

theorem emittedPhases_assemble {fieldNames : List String} {fuel : Nat} {shuffler : τ}
    (h : o.check p = .ok quota) :
    emittedPhases (assemble c sh p fieldNames fuel o env shuffler).events =
      emittedPhases (o.run c sh fieldNames quota fuel env shuffler).events := by
  have hevents : (assemble c sh p fieldNames fuel o env shuffler).events =
      [.started] ++ (o.run c sh fieldNames quota fuel env shuffler).events ++
        closingEvents p quota (o.run c sh fieldNames quota fuel env shuffler) := by
    simp [assemble, h, Order.run]
  have hstarted : emittedPhases [.started] = [] := rfl
  rw [hevents, emittedPhases_append, emittedPhases_append, emittedPhases_closingEvents, hstarted,
    List.nil_append, List.append_nil]

/-- Two feeds are equally full, and what was found on the stream is the same in both. -/
structure EquallyFull (out : Outcome σ τ) (out' : Outcome σ τ') (r r' : Result) : Prop where
  states : r.states = r'.states
  denied : r.denied = r'.denied
  length : r.records.length = r'.records.length
  shortfall : r.shortfall = r'.shortfall
  /-- The records of the primary phase come first. -/
  primary : ∃ found, found <+: r.records ∧ found <+: r'.records ∧
    emittedPhases out.events = List.replicate found.length .primary ++
      List.replicate (r.records.length - found.length) .fallback
  phases : emittedPhases out.events = emittedPhases out'.events
  byPhase : ∀ m : Metrics, (m.recordAll out.events).byPhase = (m.recordAll out'.events).byPhase
  /-- If there is room left, both feeds show the same people. -/
  targets : r.records.length < r.quota.toNat → ∀ id, id ∈ r.targets ↔ id ∈ r'.targets

/-- Where the directory always answers, another shuffler gives a feed if the first one does, and it
is equally full. -/
theorem equallyFull_of_shufflers (hw : Plays c w At) (he : At env ahead)
    (hlookup : ∀ call : Call, call.isLookup = true → ∃ a, w.answer call = .ok a)
    (sh : Shuffler τ) (sh' : Shuffler τ') (fieldNames : List String) (fuel : Nat) (shuffler : τ)
    (shuffler' : τ') {r : Result}
    (hr : (assemble c sh p fieldNames fuel o env shuffler).result = .ok r) :
    ∃ N, ∀ fuel' ≥ N, ∃ r',
      (assemble c sh' p fieldNames fuel' o env shuffler').result = .ok r' ∧
      EquallyFull (assemble c sh p fieldNames fuel o env shuffler)
        (assemble c sh' p fieldNames fuel' o env shuffler') r r' := by
  obtain ⟨quota, hcheck⟩ := exists_check_of_ok hr
  obtain ⟨denied, hend, rfl⟩ := (assemble_eq_ok_iff hcheck).1 hr
  obtain ⟨t', ⟨N, hN⟩, hfull⟩ :=
    filledAlike_run (o.request quota fieldNames) hw he hlookup sh sh' shuffler shuffler' hend
  have hend' : t'.stage = .halted (denialFault denied) := hfull.stage.symm.trans hend
  refine ⟨N, fun fuel' hfuel => ?_⟩
  have hrun : o.run c sh' fieldNames quota fuel' env shuffler' = t' :=
    (run_eq_of_halted ((congrArg State.stage hN).trans hend') hfuel).trans hN
  have hs : Sound (o.request quota fieldNames) (o.run c sh fieldNames quota fuel env shuffler) :=
    sound_run ..
  have hs' : Sound (o.request quota fieldNames) t' := hrun ▸ sound_run ..
  have hlength : (o.run c sh fieldNames quota fuel env shuffler).records.length =
      t'.records.length := by
    rw [← hs.size_eq, ← hs'.size_eq]
    exact hfull.size
  obtain ⟨found, ht, ht'⟩ := hfull.found
  have hphases : emittedPhases (assemble c sh p fieldNames fuel o env shuffler).events =
      emittedPhases (assemble c sh' p fieldNames fuel' o env shuffler').events := by
    rw [emittedPhases_assemble hcheck, emittedPhases_assemble hcheck, hrun, ht'.phases, ← hlength]
    exact ht.phases
  refine ⟨_, (assemble_eq_ok_iff hcheck).2 ⟨denied, (congrArg State.stage hrun).trans hend', rfl⟩,
    ?_⟩
  rw [hrun]
  constructor
  · exact congrArg (· ++ [AssemblyState.done]) hfull.states
  · rfl
  · exact hlength
  · simp only [resultOf, hlength]
  · exact ⟨found, ht.begins, ht'.begins, (emittedPhases_assemble hcheck).trans ht.phases⟩
  · exact hphases
  · intro m
    rw [byPhase_recordAll, byPhase_recordAll, hphases]
  · intro hroom id
    have hprocessed := hfull.processed (hs.size_eq.trans_lt hroom) id
    have htargets : (resultOf p quota denied
        (o.run c sh fieldNames quota fuel env shuffler)).targets =
        (o.run c sh fieldNames quota fuel env shuffler).ledger.processed := hs.targets.symm
    have htargets' : (resultOf p quota denied t').targets = t'.ledger.processed :=
      hs'.targets.symm
    rw [htargets, htargets']
    exact hprocessed

/-- Ann's order of four is not filled by the choir: however it is shuffled, she is shown the same
three people. -/
theorem equallyFull_of_shufflers_choir :
    (∀ call : Call, call.isLookup = true → ∃ a, choirWorld.answer call = .ok a) ∧
      ∃ r, (choirOutcome 4).result = .ok r ∧ r.targets = ["bob", "eve", "dan"] ∧
        ∃ N, ∀ fuel ≥ N, ∃ r',
          (assemble choirWorld.collaborators .keep .standard publicFieldNames fuel
            ⟨"ann", [], some (.int 4)⟩ (fun _ => .ok none) ()).result = .ok r' ∧
          r'.records.length = 3 ∧ ∀ id, id ∈ r'.targets ↔ id ∈ ["bob", "eve", "dan"] := by
  have hlookup : ∀ call : Call, call.isLookup = true → ∃ a, choirWorld.answer call = .ok a := by
    intro call _
    cases call <;> exact ⟨_, rfl⟩
  obtain ⟨N, h⟩ := equallyFull_of_shufflers choirWorld.plays rfl hlookup .reverse .keep
    publicFieldNames 40 () () choirOutcome_four
  refine ⟨hlookup, _, choirOutcome_four, rfl, N, fun fuel hfuel => ?_⟩
  obtain ⟨r', hr', hfull⟩ := h fuel hfuel
  exact ⟨r', hr', hfull.length.symm, fun id => (hfull.targets (by decide) id).symm⟩

end PeopleFeed.Feed
