import PeopleFeed.Proofs.Feed.Filling
import PeopleFeed.Proofs.Feed.Pooling

/-! Runs where nothing fails. Each phase is followed to its end: the stream, the groups, the pool.
Together they show whom the reference tells. -/
namespace PeopleFeed.Feed

open PeopleFeed.Json (Fields)

variable {σ τ : Type} {c : Collaborators σ} {sh : Shuffler τ} {rq : Request}
  {stream : Fields → List Search.Candidate} {connected : String → List String} {d : Register}
  {At : σ → Ahead → Prop} {ahead : Ahead} {s t : State σ τ} {id : String}

/-- The collaborators play a calm world. -/
abbrev PlaysCalm (c : Collaborators σ) (stream : Fields → List Search.Candidate)
    (connected : String → List String) (d : Register) (At : σ → Ahead → Prop) : Prop :=
  Plays c (.calm stream connected d) At

theorem PlaysCalm.find (hw : PlaysCalm c stream connected d At) {env : σ} (he : At env ahead)
    (id : Option String) :
    (c.respond (.find id) env).answer = .ok (d.find id) ∧
      At (c.respond (.find id) env).env ahead :=
  hw.answer (.find id) env ahead (by simp) he

/-- What a finite stream leaves ahead. -/
def aheadOf (left : List Search.Candidate) : Ahead :=
  fun n => .ok left[n]?

/-- The stream has been consumed: the newcomers on it are emitted up to the quota, and it is drained
if they are too few. -/
structure Consumed (rq : Request) (d : Register) (At : σ → Ahead → Prop)
    (left : List Search.Candidate) (s t : State σ τ) : Prop where
  shuffler : t.shuffler = s.shuffler
  env : ∃ ahead, At t.env ahead
  ledger : t.ledger = ⟨s.ledger.requester, s.ledger.connected,
    (s.ledger.processed ++ d.newcomers s.ledger (pointedAt left)).take rq.quota⟩
  stage : t.stage =
    if rq.quota ≤ (s.ledger.processed ++ d.newcomers s.ledger (pointedAt left)).length then
      .halted none
    else .drained

/-- A step on the way that leaves what is emitted in the end. -/
theorem Consumed.of_next {u : State σ τ} {left left' : List Search.Candidate}
    (h : Consumed rq d At left u t) (hshuffler : u.shuffler = s.shuffler)
    (hrequester : u.ledger.requester = s.ledger.requester)
    (hconnected : u.ledger.connected = s.ledger.connected)
    (hprocessed : u.ledger.processed ++ d.newcomers u.ledger (pointedAt left) =
      s.ledger.processed ++ d.newcomers s.ledger (pointedAt left')) :
    Consumed rq d At left' s t where
  shuffler := h.shuffler.trans hshuffler
  env := h.env
  ledger := by rw [h.ledger, hprocessed, hrequester, hconnected]
  stage := by rw [h.stage, hprocessed]

theorem consumed_of_full {left : List Search.Candidate} (hs : s.stage = .pulling)
    (he : At s.env ahead) (hq : s.ledger.size = rq.quota) :
    ∃ t, Leads c sh rq s t ∧ Consumed rq d At left s t := by
  have hlen : s.ledger.processed.length = rq.quota := hq
  have hstep : step c sh rq s = s.goto (.halted none) := by simp [step, hs, hq]
  refine ⟨_, .of_step hstep, ?_⟩
  constructor
  · rfl
  · exact ⟨ahead, he⟩
  · rw [List.take_left' hlen]
    rfl
  · rw [if_pos (by simp [hlen])]
    rfl

/-- An empty stream with room left in the feed. -/
theorem consumed_nil (hw : PlaysCalm c stream connected d At) (hs : s.stage = .pulling)
    (he : At s.env (aheadOf [])) (hq : s.ledger.size < rq.quota) :
    ∃ t, Leads c sh rq s t ∧ Consumed rq d At [] s t := by
  obtain ⟨ha, hat⟩ := hw.pull _ _ he
  have hlen : s.ledger.processed.length < rq.quota := hq
  have hstep : step c sh rq s = (s.asked c .pull).goto .drained := by
    simp only [step, hs, if_pos hq, State.ask_of_ok ha]
    rfl
  refine ⟨_, .of_step hstep, ?_⟩
  constructor
  · rfl
  · exact ⟨_, hat⟩
  · simp only [pointedAt, List.filterMap_nil, Register.newcomers, List.filter_nil,
      List.eraseDups_nil, List.append_nil, List.take_of_length_le hlen.le]
    rfl
  · simp [pointedAt, Register.newcomers, State.goto, hlen]

/-- The stream goes on with a candidate that points at an id. -/
theorem leads_named (sh : Shuffler τ) (rq : Request) (hw : PlaysCalm c stream connected d At)
    (hid : id ≠ "") (he : At s.env ahead) (hle : s.ledger.size < rq.quota) :
    ∃ u, Leads c sh rq (s.consider .stream id) u ∧ u.stage = .pulling ∧
      u.shuffler = s.shuffler ∧ At u.env ahead ∧ u.ledger.size ≤ rq.quota ∧
      u.ledger.requester = s.ledger.requester ∧ u.ledger.connected = s.ledger.connected ∧
      ∀ ids, u.ledger.processed ++ d.newcomers u.ledger ids =
        s.ledger.processed ++ d.newcomers s.ledger (id :: ids) := by
  obtain ⟨u, hlead, hst, hsh, hat, hl⟩ := leads_consider sh rq .stream hw (fun _ => rfl) hid he
  refine ⟨u, hlead, hst, hsh, hat, ?_⟩
  cases hel : s.ledger.isEligible id && d.isPerson id with
  | false =>
    rw [hel, if_neg Bool.false_ne_true] at hl
    rw [hl]
    exact ⟨hle.le, rfl, rfl, fun ids => by rw [Register.newcomers_cons_of_neg hel]⟩
  | true =>
    rw [hel, if_pos rfl] at hl
    obtain ⟨hel, hp⟩ := Bool.and_eq_true_iff.1 hel
    rw [hl, Ledger.mark_of_isEligible hel]
    refine ⟨?_, rfl, rfl, fun ids => ?_⟩
    · simpa [Ledger.size, Nat.succ_le_iff] using hle
    · rw [Register.newcomers_cons_of_pos hel hp, Ledger.mark_of_isEligible hel]
      simp

/-- Consuming the stream. -/
theorem leads_consumed (sh : Shuffler τ) (hw : PlaysCalm c stream connected d At)
    (left : List Search.Candidate) (hnamed : ∀ k ∈ left, ∀ path, k.entityId ≠ .error path)
    (hs : s.stage = .pulling) (he : At s.env (aheadOf left)) (hle : s.ledger.size ≤ rq.quota) :
    ∃ t, Leads c sh rq s t ∧ Consumed rq d At left s t := by
  induction left generalizing s with
  | nil =>
    rcases hle.lt_or_eq with hq | hq
    · exact consumed_nil hw hs he hq
    · exact consumed_of_full hs he hq
  | cons candidate left ih =>
    rcases hle.lt_or_eq with hq | hq
    · obtain ⟨ha, hat⟩ := hw.pull _ _ he
      have hstep : step c sh rq s = (s.asked c .pull).screen candidate := by
        simp only [step, hs, if_pos hq, State.ask_of_ok ha]
        rfl
      have hnamed' : ∀ k ∈ left, ∀ path, k.entityId ≠ .error path :=
        fun k hk => hnamed k (List.mem_cons_of_mem _ hk)
      cases hid : candidate.entityId with
      | error path => exact absurd hid (hnamed candidate List.mem_cons_self path)
      | ok named =>
        cases named with
        | none =>
          obtain ⟨t, hlead, ht⟩ :=
            ih (s := ((s.asked c .pull).log (.unrecognized candidate)).goto .pulling)
              hnamed' rfl hat hle
          have hscreen : (s.asked c .pull).screen candidate =
              ((s.asked c .pull).log (.unrecognized candidate)).goto .pulling := by
            simp [State.screen, hid]
          refine ⟨t, (Leads.of_step (hstep.trans hscreen)).trans hlead, ht.of_next rfl rfl rfl ?_⟩
          simp [pointedAt, hid, State.goto, State.log, State.asked]
        | some id =>
          obtain ⟨u, hlead, hst, hsh, hatu, hleu, hrequester, hconnected, hprocessed⟩ :=
            leads_named (s := s.asked c .pull) sh rq hw
              (Search.Candidate.entityId_ne_empty hid) hat hq
          obtain ⟨t, hlead', ht⟩ := ih hnamed' hst hatu hleu
          have hscreen : (s.asked c .pull).screen candidate =
              (s.asked c .pull).consider .stream id := by
            simp [State.screen, hid]
          refine ⟨t, (Leads.of_step (hstep.trans hscreen)).trans (hlead.trans hlead'),
            ht.of_next hsh hrequester hconnected ?_⟩
          rw [hprocessed]
          simp [pointedAt, hid, State.asked]
    · exact consumed_of_full hs he hq

theorem leads_resolving (sh : Shuffler τ) (rq : Request)
    (hw : PlaysCalm c stream connected d At) (hs : s.stage = .resolving)
    (he : At s.env ahead) {profile : String} {properties : Fields}
    (hself : d.find (some rq.requester) = some ⟨.profile, profile, properties⟩) :
    ∃ t, Leads c sh rq s t ∧ t.stage = .listing profile ∧ t.ledger = s.ledger ∧
      t.shuffler = s.shuffler ∧ At t.env ahead := by
  obtain ⟨ha, hat⟩ := hw.find he (some rq.requester)
  have hstep : step c sh rq s =
      (s.asked c (.find (some rq.requester))).goto (.listing profile) := by
    simp only [step, hs]
    rw [State.ask_of_ok (a := d.find (some rq.requester)) ha]
    simp only [hself]
  exact ⟨_, .of_step hstep, rfl, rfl, rfl, hat⟩

/-- A drained stream that left room: the requester is looked up and found. -/
theorem leads_listing (sh : Shuffler τ) (hw : PlaysCalm c stream connected d At)
    (hs : s.stage = .drained) (he : At s.env ahead) (hq : s.ledger.size < rq.quota)
    {profile : String} {properties : Fields}
    (hself : d.find (some rq.requester) = some ⟨.profile, profile, properties⟩) :
    ∃ t, Leads c sh rq s t ∧ t.stage = .listing profile ∧ t.ledger = s.ledger ∧
      t.shuffler = s.shuffler ∧ At t.env ahead := by
  have hstep : step c sh rq s =
      { s with states := s.states ++ [AssemblyState.consumingFallback], stage := .resolving } := by
    simp [step, hs, hq]
  obtain ⟨t, hlead, hst, hl, hsh, hat⟩ := leads_resolving sh rq hw
    (congrArg State.stage hstep) (by rw [hstep]; exact he) hself
  rw [hstep] at hl hsh
  exact ⟨t, (Leads.of_step rfl).trans hlead, hst, hl, hsh, hat⟩

/-- The groups are looked up in their shuffled order, and their members are drawn. -/
theorem leads_drawn (sh : Shuffler τ) (hw : PlaysCalm c stream connected d At)
    {profile : String} (hs : s.stage = .listing profile) (he : At s.env ahead)
    (hq : s.ledger.size < rq.quota) (hne : d.principals profile ≠ []) :
    ∃ t, Leads c sh rq s t ∧ t.stage = .filling (d.drawn sh s.shuffler profile) ∧
      t.ledger = s.ledger ∧ At t.env ahead := by
  obtain ⟨t, hrun, hst, hat, ht⟩ := run_listing (d := d) sh hw hne rfl (fun _ _ => rfl)
    (fun _ => rfl) hs he hq
  have hdrawn : step c sh rq t = t.draw sh := by simp [step, hst]
  have hsorted : State.sortedPool t.pool = (d.mates profile).sort := by
    refine State.sortedPool_eq_sort ht.nodup fun k => ?_
    rw [ht.mem, Register.mates, List.mem_toFinset]
    simp [State.listed]
  refine ⟨_, Leads.trans ⟨_, hrun⟩ (.of_step hdrawn), ?_, ht.ledger, hat⟩
  simp [State.draw, hsorted, ht.shuffler, State.listed, Register.drawn]

/-- A drained stream that left room: the feed is filled with those drawn. -/
theorem leads_filled (sh : Shuffler τ) (hw : PlaysCalm c stream connected d At)
    (hs : s.stage = .drained) (he : At s.env ahead) (hq : s.ledger.size < rq.quota)
    {profile : String} {properties : Fields}
    (hself : d.find (some rq.requester) = some ⟨.profile, profile, properties⟩) :
    ∃ t, Leads c sh rq s t ∧ t.stage = .halted none ∧
      t.ledger.processed = s.ledger.processed ++
        ((d.drawn sh s.shuffler profile).filter fun id =>
          s.ledger.isEligible id && d.isPerson id).take (rq.quota - s.ledger.size) := by
  obtain ⟨u, hlead, hst, hl, hsh, hat⟩ := leads_listing sh hw hs he hq hself
  by_cases hne : d.principals profile = []
  · obtain ⟨ha, -⟩ := hw.answer (.principals profile) _ _ (by simp) hat
    have hlisted : step c sh rq u =
        (u.asked c (.principals profile)).startGroups sh rq.requester (d.principals profile) := by
      simp only [step, hst]
      exact State.ask_of_ok ha
    rw [hne] at hlisted
    refine ⟨_, hlead.trans (.of_step hlisted), rfl, ?_⟩
    simp [State.startGroups, State.asked, State.log, State.goto, hl, d.drawn_eq_nil _ _ _ hne]
  · obtain ⟨v, hlead', hst', hl', hat'⟩ := leads_drawn sh hw hst hat (hl ▸ hq) hne
    obtain ⟨t, hlead'', hst'', ht⟩ := leads_filling sh hw (fun _ => rfl) _ hst' hat'
      (hl' ▸ hl ▸ hq.le) (d.nodup_drawn ..) (d.empty_notMem_drawn sh u.shuffler profile)
    refine ⟨t, (hlead.trans hlead').trans hlead'', hst'', ?_⟩
    rw [ht, hl', hl, hsh]

/-- Once the connections are told, the stream is opened. -/
theorem leads_pulling (sh : Shuffler τ) (rq : Request) (hw : PlaysCalm c stream connected d At)
    {env : σ} (he : At env ahead) (shuffler : τ) :
    ∃ t, Leads c sh rq (.initial env shuffler rq.requester) t ∧ t.stage = .pulling ∧
      t.ledger = ⟨rq.requester, connected rq.requester, []⟩ ∧ t.shuffler = shuffler ∧
      At t.env (aheadOf (stream rq.criteria)) := by
  obtain ⟨ha, hat⟩ := hw.answer (.connected rq.requester) _ _ (by simp) he
  have hq := hw.query rq.criteria _ _ hat
  refine ⟨_, .of_step rfl, ?_⟩
  simp only [step, State.initial]
  rw [State.ask_of_ok (a := connected rq.requester) ha]
  exact ⟨rfl, rfl, rfl, hq⟩

/-- A whole run: it ends, and whom it has emitted is what the reference tells. -/
theorem leads_feedTargets (sh : Shuffler τ) (rq : Request)
    (hw : PlaysCalm c stream connected d At) {env : σ} (he : At env ahead) (shuffler : τ)
    {profile : String} {properties : Fields}
    (hself : d.find (some rq.requester) = some ⟨.profile, profile, properties⟩)
    (hnamed : ∀ k ∈ stream rq.criteria, ∀ path, k.entityId ≠ .error path) :
    ∃ t, Leads c sh rq (.initial env shuffler rq.requester) t ∧ t.stage = .halted none ∧
      t.ledger.processed = d.feedTargets sh shuffler rq.requester profile
        (connected rq.requester) (stream rq.criteria) rq.quota := by
  obtain ⟨u, hlead, hst, hl, hsh, hat⟩ := leads_pulling sh rq hw he shuffler
  obtain ⟨v, hlead', hv⟩ := leads_consumed sh hw _ hnamed hst hat
    (by simp [hl, Ledger.size] : u.ledger.size ≤ rq.quota)
  obtain ⟨ahead', hat'⟩ := hv.env
  have hledger := hv.ledger
  have hstage := hv.stage
  rw [hl, List.nil_append, ← Register.found_eq_newcomers] at hledger hstage
  by_cases hfull : rq.quota ≤
      (d.found rq.requester (connected rq.requester) (stream rq.criteria)).length
  · rw [if_pos hfull] at hstage
    refine ⟨v, hlead.trans hlead', hstage, ?_⟩
    simp only [hledger, Register.feedTargets, if_pos hfull]
  · rw [if_neg hfull] at hstage
    rw [List.take_of_length_le (by omega)] at hledger
    have hsize : v.ledger.size =
        (d.found rq.requester (connected rq.requester) (stream rq.criteria)).length := by
      rw [hledger]
      rfl
    obtain ⟨t, hlead'', hst'', ht⟩ := leads_filled sh hw hstage hat' (by omega) hself
    refine ⟨t, (hlead.trans hlead').trans hlead'', hst'', ?_⟩
    rw [ht, hsize, hv.shuffler, hsh, hledger]
    simp only [Register.feedTargets, if_neg hfull]
    congr 2
    apply List.filter_congr
    intro k _
    simp only [Ledger.isEligible, isEligible, Register.mayShow]
    rw [Bool.and_right_comm]

section

variable {p : Policy} {o : Order} {quota : Count} {env : σ}

/-- Where nothing fails and the stream names everybody it points at, a feed is made after finitely
many steps, and it shows whom the reference tells: the people found on the stream as far as they
fit, and behind them, if there is room, those drawn from the requester's groups. -/
theorem targets_eq_feedTargets (hw : PlaysCalm c stream connected d At) (he : At env ahead)
    (sh : Shuffler τ) (shuffler : τ) (fieldNames : List String)
    (hcheck : o.check p = .ok quota) {profile : String} {properties : Fields}
    (hself : d.find (some o.requester) = some ⟨.profile, profile, properties⟩)
    (hnamed : ∀ k ∈ stream (searchCriteria o.requester o.criteria),
      ∀ path, k.entityId ≠ .error path) :
    ∃ N, ∀ fuel ≥ N, ∃ r,
      (assemble c sh p fieldNames fuel o env shuffler).result = .ok r ∧
      r.targets = d.feedTargets sh shuffler o.requester profile (connected o.requester)
        (stream (searchCriteria o.requester o.criteria)) quota.toNat := by
  obtain ⟨t, ⟨n, hn⟩, hst, ht⟩ :=
    leads_feedTargets sh (o.request quota fieldNames) hw he shuffler hself hnamed
  refine ⟨n, fun fuel hfuel => ?_⟩
  have hrun : o.run c sh fieldNames quota fuel env shuffler = t :=
    (run_eq_of_halted ((congrArg State.stage hn).trans hst) hfuel).trans hn
  have hend : (o.run c sh fieldNames quota fuel env shuffler).stage =
      .halted (denialFault none) := by
    rw [hrun]
    exact hst
  refine ⟨_, (assemble_eq_ok_iff hcheck).2 ⟨none, hend, rfl⟩, ?_⟩
  have htargets := (sound_run c sh (o.request quota fieldNames) env shuffler fuel).targets
  exact htargets.symm.trans ((congrArg (·.ledger.processed) hrun).trans ht)

/-- Of the choir Ann is shown Bob, whom she finds, and then Eve and Dan, who are drawn. -/
theorem targets_eq_feedTargets_choir :
    (⟨"ann", [], some (.int 3)⟩ : Order).check .standard = .ok (.number 3) ∧
      choir.find (some "ann") = some ⟨.profile, "ann", []⟩ ∧
      (∀ k ∈ choirStream, ∀ path, k.entityId ≠ .error path) ∧
      ∃ N, ∀ fuel ≥ N, ∃ r,
        (assemble choirWorld.collaborators .reverse .standard publicFieldNames fuel
          ⟨"ann", [], some (.int 3)⟩ (fun _ => .ok none) ()).result = .ok r ∧
        r.targets = ["bob", "eve", "dan"] := by
  have hnamed : ∀ k ∈ choirStream, ∀ path, k.entityId ≠ .error path := by
    have hids : choirStream.map (fun k => k.entityId.toOption.isSome) = List.replicate 6 true := by
      cbv
    intro k hk path hpath
    have hsome := List.eq_of_mem_replicate (hids ▸ List.mem_map_of_mem hk)
    simp [hpath, Except.toOption] at hsome
  have htargets : choir.feedTargets .reverse () "ann" "ann" ["cat"] choirStream 3 =
      ["bob", "eve", "dan"] := by cbv
  obtain ⟨N, h⟩ := targets_eq_feedTargets choirWorld.plays rfl .reverse () publicFieldNames
    check_three rfl hnamed
  exact ⟨check_three, rfl, hnamed, N, fun fuel hfuel => htargets ▸ h fuel hfuel⟩

end

end PeopleFeed.Feed
