import PeopleFeed.Proofs.Feed.Consumption
import PeopleFeed.Proofs.Feed.Exchange
import PeopleFeed.Proofs.Feed.Naming

/-! In which order a run turns to its collaborators: the conversation is told as one text, from the
connections over the stream and the groups to the people drawn, and every run follows it. -/
namespace PeopleFeed.Feed

variable {σ τ : Type} {c : Collaborators σ} {sh : Shuffler τ} {rq : Request}
  {s t base : State σ τ} {origin : Origin} {id : String} {call : Call} {quota : Nat}
  {shuffler : τ} {l : Ledger} {w : List Exchange} {found : Option Entity} {todo : List String}
  {pool : Finset String}

/-- A call is made. A fault ends the conversation, an answer decides how it goes on. -/
inductive Asks (call : Call) (go : call.Answer → List Exchange → Prop) : List Exchange → Prop
  | failed (f : Fault) : Asks call go [⟨call, .error f⟩]
  | answered {a : call.Answer} {w : List Exchange} (h : go a w) :
      Asks call go (⟨call, .ok a⟩ :: w)

/-- The exclusions once a candidate has been looked up: somebody who is found is emitted. -/
def Ledger.after (l : Ledger) (id : String) (found : Option Entity) : Ledger :=
  if found.any (·.kind = .profile) then l.mark id else l

/-- The stream is pulled as long as there is room, and those it points at are looked up if they are
eligible. If it ends while there is room, something else follows. -/
inductive Consumes (quota : Nat) (next : Ledger → List Exchange → Prop) :
    Ledger → List Exchange → Prop
  | full {l : Ledger} (hq : quota ≤ l.size) : Consumes quota next l []
  | failed {l : Ledger} {f : Fault} (hq : l.size < quota) :
      Consumes quota next l [⟨.pull, .error f⟩]
  | ended {l : Ledger} {w : List Exchange} (hq : l.size < quota) (h : next l w) :
      Consumes quota next l (⟨.pull, .ok none⟩ :: w)
  | nameless {l : Ledger} {candidate : Search.Candidate} {path : Search.NamelessPath}
      (hq : l.size < quota) (hid : candidate.entityId = .error path) :
      Consumes quota next l [⟨.pull, .ok (some candidate)⟩]
  | passed {l : Ledger} {candidate : Search.Candidate} {named : Option String}
      {w : List Exchange} (hq : l.size < quota) (hid : candidate.entityId = .ok named)
      (he : ∀ id ∈ named, l.isEligible id = false) (h : Consumes quota next l w) :
      Consumes quota next l (⟨.pull, .ok (some candidate)⟩ :: w)
  | unanswered {l : Ledger} {candidate : Search.Candidate} {id : String} {f : Fault}
      (hq : l.size < quota) (hid : candidate.entityId = .ok (some id))
      (he : l.isEligible id = true) :
      Consumes quota next l [⟨.pull, .ok (some candidate)⟩, ⟨.find (some id), .error f⟩]
  | looked {l : Ledger} {candidate : Search.Candidate} {id : String} {found : Option Entity}
      {w : List Exchange} (hq : l.size < quota) (hid : candidate.entityId = .ok (some id))
      (he : l.isEligible id = true) (h : Consumes quota next (l.after id found) w) :
      Consumes quota next l
        (⟨.pull, .ok (some candidate)⟩ :: ⟨.find (some id), .ok found⟩ :: w)

/-- The people drawn are looked up in their order, as long as there is room. Those who are not
eligible are passed over. -/
def Fills (quota : Nat) : List String → Ledger → List Exchange → Prop
  | [], _ => fun w => w = []
  | id :: todo, l => fun w =>
    if quota ≤ l.size then w = []
    else if l.isEligible id then
      Asks (.find (some id)) (fun found => Fills quota todo (l.after id found)) w
    else Fills quota todo l w

/-- Each principal is looked up once, in the given order, and asked for its members exactly if it
is a group. After the last one the people who were named are drawn, each once. -/
def Visits (quota : Nat) (l : Ledger) :
    List (Option String) → Finset String → List Exchange → Prop
  | [], pool => fun w =>
    ∃ drawn : List String, drawn.Nodup ∧ drawn.toFinset = pool ∧ Fills quota drawn l w
  | principal :: todo, pool =>
    Asks (.find principal) fun found w =>
      (∃ e, found = some e ∧ e.kind = .group ∧
        Asks (.members e.id)
          (fun members => Visits quota l todo (pool ∪ (State.namesIn members).toFinset)) w) ∨
      ¬ IsKind .group found ∧ Visits quota l todo pool w

/-- The groups of a person are listed and, if there are any, visited in a shuffled order. -/
def Lists (quota : Nat) (sh : Shuffler τ) (shuffler : τ) (l : Ledger) (profile : String) :
    List Exchange → Prop :=
  Asks (.principals profile) fun principals w =>
    if principals = [] then w = []
    else Visits quota l (sh.shuffle shuffler principals).1 ∅ w

/-- The requester is looked up, and asked for groups if there is such a person. -/
def FallsBack (quota : Nat) (sh : Shuffler τ) (shuffler : τ) (requester : String) (l : Ledger) :
    List Exchange → Prop :=
  Asks (.find (some requester)) fun found w =>
    (∃ e, found = some e ∧ e.kind = .profile ∧ Lists quota sh shuffler l e.id w) ∨
    ¬ IsKind .profile found ∧ w = []

/-- A whole run: the connections are asked for, then the stream is consumed, and if it ends while
there is room, the groups of the requester follow. -/
def Converses (quota : Nat) (sh : Shuffler τ) (shuffler : τ) (requester : String) :
    List Exchange → Prop :=
  Asks (.connected requester) fun ids =>
    Consumes quota (FallsBack quota sh shuffler requester) ⟨requester, ids, []⟩

/-- How the conversation of a run may go on from some point. -/
def State.GoesOn (sh : Shuffler τ) (rq : Request) (s : State σ τ) : List Exchange → Prop :=
  match s.stage with
  | .connecting => Converses rq.quota sh s.shuffler rq.requester
  | .pulling => Consumes rq.quota (FallsBack rq.quota sh s.shuffler rq.requester) s.ledger
  | .looking .stream id =>
    Asks (.find (some id)) fun found =>
      Consumes rq.quota (FallsBack rq.quota sh s.shuffler rq.requester) (s.ledger.after id found)
  | .looking (.pool todo) id =>
    Asks (.find (some id)) fun found => Fills rq.quota todo (s.ledger.after id found)
  | .drained | .resolving => FallsBack rq.quota sh s.shuffler rq.requester s.ledger
  | .listing profile => Lists rq.quota sh s.shuffler s.ledger profile
  | .grouping todo => Visits rq.quota s.ledger todo s.pool.toFinset
  | .gathering group todo =>
    Asks (.members group) fun members =>
      Visits rq.quota s.ledger todo (s.pool.toFinset ∪ (State.namesIn members).toFinset)
  | .filling todo => Fills rq.quota todo s.ledger
  | .halted _ => fun w => w = []

theorem Ledger.after_of_isKind {e : Entity} (hk : e.kind = .profile) :
    l.after id (some e) = l.mark id := by
  simp [after, hk]

theorem Ledger.after_of_not_isKind (hk : ¬ IsKind .profile found) : l.after id found = l := by
  have hnone : found.any (·.kind = .profile) = false := by
    cases found with
    | none => rfl
    | some e =>
      have hne : e.kind ≠ .profile := fun he => hk ⟨e, rfl, he⟩
      simp [hne]
  simp [after, hnone]

theorem toFinset_pooled (names listing : List String) :
    (State.pooled names listing).toFinset = names.toFinset ∪ listing.toFinset := by
  ext k
  simp [State.mem_pooled]

/-- Wherever a call is made, the conversation may end with a fault. -/
theorem goesOn_of_error {f : Fault} (hn : s.nextCall rq = some call) :
    s.GoesOn sh rq [⟨call, .error f⟩] := by
  unfold State.nextCall at hn
  cases hst : s.stage with
  | pulling =>
    obtain ⟨hq, rfl⟩ : _ ∧ _ = call := by simpa [hst] using hn
    simp only [State.GoesOn, hst]
    exact .failed hq
  | looking origin id =>
    obtain rfl : _ = call := by simpa [hst] using hn
    cases origin <;> simp only [State.GoesOn, hst] <;> exact .failed f
  | grouping todo =>
    cases todo with
    | nil => simp [hst] at hn
    | cons principal todo =>
      obtain ⟨-, rfl⟩ : _ ∧ _ = call := by simpa [hst] using hn
      simp only [State.GoesOn, hst]
      exact .failed f
  | connecting | resolving | listing | gathering =>
    obtain rfl : _ = call := by simpa [hst] using hn
    simp only [State.GoesOn, hst]
    exact .failed f
  | drained | filling | halted => simp [hst] at hn

/-- Somebody is offered who is not looked up. -/
theorem goesOn_passedOver (ho : Offer c rq s origin id base) (he : s.ledger.isEligible id = false)
    (hw : ((base.log (.considered origin.phase)).goto origin.next).GoesOn sh rq w) :
    s.GoesOn sh rq ((s.exchange? c rq).toList ++ w) := by
  cases ho with
  | stream hst hq ha hid =>
    rw [State.exchange?_of_some (by simp [State.nextCall, hst, hq]) ha]
    simp only [State.GoesOn, hst]
    exact .passed hq hid (by simpa using he) hw
  | pool hst hq =>
    rw [State.exchange?_of_none (by simp [State.nextCall, hst])]
    simp only [State.GoesOn, hst, Fills, if_neg (Nat.not_le.2 hq), he]
    exact hw

/-- Somebody is offered who is to be looked up. -/
theorem goesOn_chosen (ho : Offer c rq s origin id base) (he : s.ledger.isEligible id = true)
    (hw : ((base.log (.considered origin.phase)).goto (.looking origin id)).GoesOn sh rq w) :
    s.GoesOn sh rq ((s.exchange? c rq).toList ++ w) := by
  cases ho with
  | stream hst hq ha hid =>
    rw [State.exchange?_of_some (by simp [State.nextCall, hst, hq]) ha]
    simp only [State.GoesOn, hst]
    cases hw with
    | failed f => exact .unanswered hq hid he
    | answered h => exact .looked hq hid he h
  | pool hst hq =>
    rw [State.exchange?_of_none (by simp [State.nextCall, hst])]
    simp only [State.GoesOn, hst, Fills, if_neg (Nat.not_le.2 hq), he]
    exact hw

/-- A candidate has been looked up. -/
theorem goesOn_looking (hst : s.stage = .looking origin id)
    (ha : (c.respond (.find (some id)) s.env).answer = .ok found) (hw : t.GoesOn sh rq w)
    (ht : t.stage = origin.next) (hl : t.ledger = s.ledger.after id found)
    (hsh : t.shuffler = s.shuffler) :
    s.GoesOn sh rq ((s.exchange? c rq).toList ++ w) := by
  rw [State.exchange?_of_some (by simp [State.nextCall, hst]) ha]
  cases origin with
  | stream =>
    simp only [State.GoesOn, ht, Origin.next, hl, hsh] at hw
    simp only [State.GoesOn, hst]
    exact .answered hw
  | pool todo =>
    simp only [State.GoesOn, ht, Origin.next, hl] at hw
    simp only [State.GoesOn, hst]
    exact .answered hw

/-- If a conversation may go on after a step, it may do so before the step with what the step
exchanges. -/
theorem goesOn_transition (h : Transition c sh rq s t) (hs : Sound rq s) (hnamed : Named s)
    (hw : t.GoesOn sh rq w) : s.GoesOn sh rq ((s.exchange? c rq).toList ++ w) := by
  cases h with
  | rested hst =>
    rw [State.exchange?_of_none (by simp [State.nextCall, hst])]
    exact hw
  | faulted hn ha =>
    obtain rfl : w = [] := hw
    rw [State.exchange?_of_some hn ha]
    exact goesOn_of_error hn
  | connected hst ha =>
    rw [State.exchange?_of_some (by simp [State.nextCall, hst]) ha]
    simp only [State.GoesOn, hst]
    exact .answered hw
  | met hst hq =>
    obtain rfl : w = [] := hw
    rcases hst with hst | hst
    · rw [State.exchange?_of_none (by simp [State.nextCall, hst, Nat.not_lt.2 hq])]
      simp only [State.GoesOn, hst]
      exact .full hq
    · have hroom := hs.room (by simp [hst, Stage.needsRoom])
      omega
  | dried hst hq ha =>
    rw [State.exchange?_of_some (by simp [State.nextCall, hst, hq]) ha]
    simp only [State.GoesOn, hst]
    exact .ended hq hw
  | nameless hst hq ha hid =>
    obtain rfl : w = [] := hw
    rw [State.exchange?_of_some (by simp [State.nextCall, hst, hq]) ha]
    simp only [State.GoesOn, hst]
    exact .nameless hq hid
  | unrecognized hst hq ha hid =>
    rw [State.exchange?_of_some (by simp [State.nextCall, hst, hq]) ha]
    simp only [State.GoesOn, hst]
    exact .passed hq hid (by simp) hw
  | refused ho => exact absurd rfl (ho.id_ne_empty hnamed)
  | passedOver ho hid he => exact goesOn_passedOver ho he hw
  | chosen ho hid he => exact goesOn_chosen ho he hw
  | emitted hst ha hk =>
    exact goesOn_looking hst ha hw rfl (Ledger.after_of_isKind hk).symm rfl
  | skipped hst ha hk =>
    exact goesOn_looking hst ha hw rfl (Ledger.after_of_not_isKind hk).symm rfl
  | turned hst =>
    rw [State.exchange?_of_none (by simp [State.nextCall, hst])]
    simp only [State.GoesOn, hst]
    exact hw
  | resolved hst ha hk =>
    rw [State.exchange?_of_some (by simp [State.nextCall, hst]) ha]
    simp only [State.GoesOn, hst]
    exact .answered (.inl ⟨_, rfl, hk, hw⟩)
  | unresolved hst ha hk =>
    rw [State.exchange?_of_some (by simp [State.nextCall, hst]) ha]
    simp only [State.GoesOn, hst]
    exact .answered (.inr ⟨hk, hw⟩)
  | @listed profile principals hst ha =>
    rw [State.exchange?_of_some (by simp [State.nextCall, hst]) ha]
    simp only [State.GoesOn, hst]
    refine .answered ?_
    by_cases hp : principals = []
    · simpa [State.startGroups, State.GoesOn, State.goto, hp] using hw
    · simpa [State.startGroups, State.GoesOn, hp, State.asked] using hw
  | drawn hst hq =>
    obtain rfl : _ = [] := hq.resolve_right fun hfull => by
      have hroom := hs.room (by simp [hst, Stage.needsRoom])
      omega
    rw [State.exchange?_of_none (by simp [State.nextCall, hst])]
    simp only [State.GoesOn, hst]
    have hperm := (sh.perm s.shuffler (State.sortedPool s.pool)).trans (State.sortedPool_perm _)
    exact ⟨_, hperm.nodup_iff.2 hnamed.nodup, List.toFinset_eq_of_perm _ _ hperm, hw⟩
  | grouped hst hq ha hk =>
    rw [State.exchange?_of_some (by simp [State.nextCall, hst, hq]) ha]
    simp only [State.GoesOn, hst]
    exact .answered (.inl ⟨_, rfl, hk, hw⟩)
  | ungrouped hst hq ha hk =>
    rw [State.exchange?_of_some (by simp [State.nextCall, hst, hq]) ha]
    simp only [State.GoesOn, hst]
    exact .answered (.inr ⟨hk, hw⟩)
  | gathered hst ha =>
    rw [State.exchange?_of_some (by simp [State.nextCall, hst]) ha]
    simp only [State.GoesOn, hst]
    simp only [State.GoesOn, toFinset_pooled] at hw
    exact .answered hw
  | @finished todo hst hq =>
    obtain rfl : w = [] := hw
    rw [State.exchange?_of_none (by simp [State.nextCall, hst])]
    simp only [State.GoesOn, hst]
    cases todo with
    | nil => rfl
    | cons id todo => simp [Fills, hq.resolve_left (by simp)]

theorem exists_fills (quota : Nat) (todo : List String) (l : Ledger) :
    ∃ w, Fills quota todo l w := by
  induction todo with
  | nil => exact ⟨[], rfl⟩
  | cons id todo ih =>
    by_cases hq : quota ≤ l.size
    · exact ⟨[], by simp [Fills, hq]⟩
    · cases he : l.isEligible id with
      | true => exact ⟨_, by simpa [Fills, hq, he] using Asks.failed (.surprise .statementRejected)⟩
      | false =>
        obtain ⟨w, hw⟩ := ih
        exact ⟨w, by simpa [Fills, hq, he] using hw⟩

/-- A conversation may always go on somehow. -/
theorem exists_goesOn (sh : Shuffler τ) (rq : Request) (s : State σ τ) :
    ∃ w, s.GoesOn sh rq w := by
  cases hn : s.nextCall rq with
  | some call => exact ⟨_, goesOn_of_error (f := .surprise .statementRejected) hn⟩
  | none =>
    unfold State.nextCall at hn
    cases hst : s.stage with
    | pulling =>
      have hq : rq.quota ≤ s.ledger.size := by simpa [hst] using hn
      refine ⟨[], ?_⟩
      simp only [State.GoesOn, hst]
      exact .full hq
    | drained =>
      refine ⟨[⟨.find (some rq.requester), .error (.surprise .statementRejected)⟩], ?_⟩
      simp only [State.GoesOn, hst]
      exact .failed _
    | grouping todo =>
      cases todo with
      | nil =>
        obtain ⟨w, hw⟩ := exists_fills rq.quota s.pool.toFinset.toList s.ledger
        refine ⟨w, ?_⟩
        simp only [State.GoesOn, hst]
        exact ⟨_, Finset.nodup_toList _, Finset.toList_toFinset _, hw⟩
      | cons principal todo =>
        refine ⟨[⟨.find principal, .error (.surprise .statementRejected)⟩], ?_⟩
        simp only [State.GoesOn, hst]
        exact .failed _
    | filling todo =>
      obtain ⟨w, hw⟩ := exists_fills rq.quota todo s.ledger
      refine ⟨w, ?_⟩
      simp only [State.GoesOn, hst]
      exact hw
    | halted f =>
      refine ⟨[], ?_⟩
      simp only [State.GoesOn, hst]
    | _ => simp [hst] at hn

/-- What a run has exchanged, and what it may still exchange, is a conversation. -/
theorem converses_run (c : Collaborators σ) (sh : Shuffler τ) (rq : Request) (env : σ)
    (shuffler : τ) (n : Nat)
    (hw : (run c sh rq n (.initial env shuffler rq.requester)).GoesOn sh rq w) :
    Converses rq.quota sh shuffler rq.requester
      (exchanges c sh rq n (.initial env shuffler rq.requester) ++ w) := by
  induction n generalizing w with
  | zero => exact hw
  | succ n ih =>
    rw [run_succ_last] at hw
    have hback := goesOn_transition (transition_step ..) (sound_run c sh rq env shuffler n)
      (named_run c sh rq env shuffler n) hw
    rw [exchanges_succ, List.append_assoc]
    exact ih hback

/-- Once a page is full, no call is made anymore. -/
theorem calls_of_full (c : Collaborators σ) (sh : Shuffler τ) (hs : Sound rq s)
    (hst : s.stage ≠ .connecting) (hfull : s.records.length = rq.quota) (n : Nat) :
    (run c sh rq n s).calls = s.calls := by
  have hfixed : Sound rq (run c sh rq n s) ∧ (run c sh rq n s).stage ≠ .connecting ∧
      (run c sh rq n s).records.length = rq.quota ∧ (run c sh rq n s).calls = s.calls := by
    induction n with
    | zero => exact ⟨hs, hst, hfull, rfl⟩
    | succ n ih =>
      obtain ⟨hsound, hstage, hlen, hcalls⟩ := ih
      have h := transition_step c sh rq (run c sh rq n s)
      rw [run_succ_last]
      have hsound' := sound_transition h hsound
      refine ⟨hsound', (connected_transition h hstage).1, ?_, ?_⟩
      · have hgrow := (extends_transition h).records.length_le
        have hle := hsound'.size_le
        rw [hsound'.size_eq] at hle
        omega
      · have hfull' : ¬ (run c sh rq n s).ledger.size < rq.quota := by
          rw [hsound.size_eq]
          omega
        have hnone : (run c sh rq n s).nextCall rq = none := by
          have hroom := mt hsound.room hfull'
          unfold State.nextCall
          cases hst' : (run c sh rq n s).stage with
          | connecting => exact absurd hst' hstage
          | pulling => simp [hfull']
          | filling | halted => rfl
          | _ => simp [hst', Stage.needsRoom] at hroom
        rw [calls_step, hnone, hcalls]
        simp
  exact hfixed.2.2.2

section

variable {p : Policy} {o : Order} {size : Count}

/-- At every point of a run its calls are the beginning of a conversation, and once it has ended
they are a whole one. Whoever is looked up as a candidate is not the requester, not connected and
not yet emitted; once the page is full no call is made; and a denial before the pool is drawn leaves
exactly the records found on the stream. -/
theorem calls_converse (c : Collaborators σ) (sh : Shuffler τ) (fieldNames : List String)
    (env : σ) (shuffler : τ) (h : o.check p = .ok size) :
    let s k := o.run c sh fieldNames size k env shuffler
    (∀ n, (s n).calls = (o.exchanges c sh fieldNames size n env shuffler).map (·.call) ∧
      ∃ rest, ((s n).stage.isHalted = true → rest = []) ∧
        Converses size.toNat sh shuffler o.requester
          (o.exchanges c sh fieldNames size n env shuffler ++ rest)) ∧
    (∀ k origin id, (s k).stage = .looking origin id →
      id ≠ o.requester ∧ id ∉ (s k).records.map (·.target) ∧
        ∀ ids, (c.respond (.connected o.requester) env).answer = .ok ids → id ∉ ids) ∧
    (∀ k n, 1 ≤ k → k ≤ n → (s k).records.length = size.toNat → (s n).calls = (s k).calls) ∧
    ∀ k call d fuel, (s k).stage.isTurning = true →
      (s k).nextCall (o.request size fieldNames) = some call →
      (c.respond call (s k).env).answer = .error (.denial d) → k < fuel →
      ∃ r, (assemble c sh p fieldNames fuel o env shuffler).result = .ok r ∧ r.denied = some d ∧
        r.records = (consumed c sh (o.request size fieldNames) fuel
          (.initial env shuffler o.requester)).records := by
  intro s
  have hsound (k : Nat) : Sound (o.request size fieldNames) (s k) :=
    sound_run c sh (o.request size fieldNames) env shuffler k
  refine ⟨fun n => ⟨?_, ?_⟩, fun k origin id hst => ?_, fun k n hk hkn hfull => ?_,
    fun k call d fuel hst hn ha hk => ?_⟩
  · exact calls_run c sh (o.request size fieldNames) n (.initial env shuffler o.requester)
  · obtain ⟨rest, hrest⟩ := exists_goesOn sh (o.request size fieldNames) (s n)
    refine ⟨rest, fun hend => ?_, converses_run c sh (o.request size fieldNames) env shuffler n
      hrest⟩
    cases hs : (s n).stage with
    | halted f => simpa [State.GoesOn, hs] using hrest
    | _ => simp [hs, Stage.isHalted] at hend
  · have he := Ledger.isEligible_iff.1 ((hsound k).eligible origin id hst)
    rw [(hsound k).requester, (hsound k).targets] at he
    refine ⟨he.1, he.2.2, fun ids hids => ?_⟩
    cases k with
    | zero => simp [s, Order.run, run, runTo, State.initial] at hst
    | succ k =>
      have hids' : (c.respond (.connected (o.request size fieldNames).requester) env).answer =
          .ok ids := hids
      have hconnected : (s (k + 1)).ledger.connected = ids := connected_run hids' k
      exact hconnected ▸ he.2.1
  · obtain ⟨j, rfl⟩ := Nat.exists_eq_add_of_le hkn
    have hstage : (s k).stage ≠ .connecting := by
      obtain ⟨i, rfl⟩ := Nat.exists_eq_add_of_le' hk
      simp only [s, Order.run]
      rw [run_succ_last]
      exact stage_ne_connecting (transition_step ..)
    have hcalls := calls_of_full c sh (hsound k) hstage hfull j
    simp only [s, Order.run]
    rw [run_add]
    exact hcalls
  · have hrun : o.run c sh fieldNames size fuel env shuffler =
        ((s k).asked c call).goto (.halted (some (.denial d))) := run_of_error hn ha hk
    refine ⟨_, (assemble_eq_ok_iff h).2 ⟨some d, congrArg State.stage hrun, rfl⟩, rfl, ?_⟩
    simp only [resultOf]
    rw [hrun]
    exact records_of_isTurning (s := .initial env shuffler o.requester) rfl hk.le hst

/-- The choir with its members hidden. They are asked for by the fourteenth call. -/
def closedChoir : Collaborators (Nat × Ahead) :=
  choirWorld.collaborators.denying 14 (.reported "hidden")

theorem found_closedChoir :
    (consumed closedChoir .reverse
      ((⟨"ann", [], some (.int 3)⟩ : Order).request (.number 3) publicFieldNames) 40
      (.initial (0, fun _ => .ok none) () "ann")).records.map (·.target) = ["bob"] := by
  cbv

theorem isHalted_closedChoir :
    ((⟨"ann", [], some (.int 3)⟩ : Order).run closedChoir .reverse publicFieldNames (.number 3) 40
      (0, fun _ => .ok none) ()).stage.isHalted = true := by
  cbv

/-- Ann's search finds Bob. If she may not see who is in the choir, he is all that she is shown, and
the refused call ends the conversation. -/
theorem calls_converse_choir :
    (⟨"ann", [], some (.int 3)⟩ : Order).check .standard = .ok (.number 3) ∧
      Converses 3 .reverse () "ann" ((⟨"ann", [], some (.int 3)⟩ : Order).exchanges closedChoir
        .reverse publicFieldNames (.number 3) 40 (0, fun _ => .ok none) ()) ∧
      ∃ r, (assemble closedChoir .reverse .standard publicFieldNames 40
          ⟨"ann", [], some (.int 3)⟩ (0, fun _ => .ok none) ()).result = .ok r ∧
        r.denied = some (.reported "hidden") ∧ r.targets = ["bob"] := by
  obtain ⟨hconverses, -, -, hdenied⟩ :=
    calls_converse closedChoir .reverse publicFieldNames (0, fun _ => .ok none) () check_three
  refine ⟨check_three, ?_, ?_⟩
  · obtain ⟨-, rest, hrest, hw⟩ := hconverses 40
    rw [hrest isHalted_closedChoir, List.append_nil] at hw
    exact hw
  · obtain ⟨r, hr, hd, hrecords⟩ := hdenied 14 (.members "choir") (.reported "hidden") 40
      (by cbv) (by cbv) (by cbv) (by decide)
    refine ⟨r, hr, hd, ?_⟩
    rw [Result.targets, hrecords]
    exact found_closedChoir

end

end PeopleFeed.Feed
