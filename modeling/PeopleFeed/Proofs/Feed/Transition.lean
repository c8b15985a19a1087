import PeopleFeed.Feed.Assembly
import Mathlib.Data.List.Infix

/-! What one step of a run can do: the call that it makes and every state that it can lead to. -/
namespace PeopleFeed.Feed

variable {σ τ : Type} {c : Collaborators σ} {sh : Shuffler τ} {rq : Request}
  {s : State σ τ} {call : Call}

namespace State

/-- The call that the next step makes, if it makes one. -/
def nextCall (rq : Request) (s : State σ τ) : Option Call :=
  match s.stage with
  | .connecting => some (.connected rq.requester)
  | .pulling => if s.ledger.size < rq.quota then some .pull else none
  | .looking _ id => some (.find (some id))
  | .resolving => some (.find (some rq.requester))
  | .listing profile => some (.principals profile)
  | .grouping (principal :: _) =>
    if s.ledger.size < rq.quota then some (.find principal) else none
  | .gathering group _ => some (.members group)
  | .grouping [] | .drained | .filling _ | .halted _ => none

/-- A run pulls its stream only while there is room. -/
theorem nextCall_eq_pull_iff :
    s.nextCall rq = some .pull ↔ s.stage = .pulling ∧ s.ledger.size < rq.quota := by
  constructor
  · intro h
    unfold nextCall at h
    split at h
    case h_2 hs =>
      split at h
      · rename_i hq
        exact ⟨hs, hq⟩
      · cases h
    case h_6 => split at h <;> cases h
    all_goals cases h
  · rintro ⟨hs, hq⟩
    simp [nextCall, hs, hq]

/-- A run after a call, before the answer is taken in. -/
def asked (c : Collaborators σ) (call : Call) (s : State σ τ) : State σ τ :=
  { s with
    env := (c.respond call s.env).env
    calls := s.calls ++ [call]
    events := s.events ++ (c.respond call s.env).notes.map Event.noted }

theorem ask_of_ok {next : call.Answer → State σ τ → State σ τ} {a : call.Answer}
    (h : (c.respond call s.env).answer = .ok a) :
    s.ask c call next = next a (s.asked c call) := by
  simp [ask, asked, h]

theorem ask_of_error {next : call.Answer → State σ τ → State σ τ} {f : Fault}
    (h : (c.respond call s.env).answer = .error f) :
    s.ask c call next = (s.asked c call).goto (.halted (some f)) := by
  simp [ask, asked, h]

theorem consider_of_isEligible {origin : Origin} {id : String} (hid : id ≠ "")
    (he : s.ledger.isEligible id = true) :
    s.consider origin id = (s.log (.considered origin.phase)).goto (.looking origin id) := by
  simp [consider, hid, log, he]

theorem consider_of_not_isEligible {origin : Origin} {id : String} (hid : id ≠ "")
    (he : s.ledger.isEligible id = false) :
    s.consider origin id = (s.log (.considered origin.phase)).goto origin.next := by
  simp [consider, hid, log, he]

end State

/-- A run offers an id to be considered: the next of the stream or the next of the pool. The last
state is the one in which it is considered. -/
inductive Offer (c : Collaborators σ) (rq : Request) :
    State σ τ → Origin → String → State σ τ → Prop
  | stream {s : State σ τ} {candidate : Search.Candidate} {id : String}
      (hs : s.stage = .pulling) (hq : s.ledger.size < rq.quota)
      (ha : (c.respond .pull s.env).answer = .ok (some candidate))
      (hid : candidate.entityId = .ok (some id)) :
      Offer c rq s .stream id (s.asked c .pull)
  | pool {s : State σ τ} {id : String} {todo : List String}
      (hs : s.stage = .filling (id :: todo)) (hq : s.ledger.size < rq.quota) :
      Offer c rq s (.pool todo) id s

/-- What is offered is considered next. -/
theorem step_of_offer {base : State σ τ} {origin : Origin} {id : String} (sh : Shuffler τ)
    (h : Offer c rq s origin id base) : step c sh rq s = base.consider origin id := by
  cases h with
  | stream hs hq ha hid =>
    simp only [step, hs, if_pos hq, State.ask_of_ok ha, State.screen, hid]
  | pool hs hq => simp only [step, hs, if_pos hq]

/-- Whether what was found is of a kind. -/
def IsKind (kind : EntityKind) (found : Option Entity) : Prop :=
  ∃ e, found = some e ∧ e.kind = kind

/-- Everything that a step can do. -/
inductive Transition (c : Collaborators σ) (sh : Shuffler τ) (rq : Request) :
    State σ τ → State σ τ → Prop
  | rested {s : State σ τ} {f : Option Fault} (hs : s.stage = .halted f) :
      Transition c sh rq s s
  | faulted {s : State σ τ} {call : Call} {f : Fault} (hn : s.nextCall rq = some call)
      (ha : (c.respond call s.env).answer = .error f) :
      Transition c sh rq s ((s.asked c call).goto (.halted (some f)))
  | connected {s : State σ τ} {ids : List String} (hs : s.stage = .connecting)
      (ha : (c.respond (.connected rq.requester) s.env).answer = .ok ids) :
      Transition c sh rq s
        { s.asked c (.connected rq.requester) with
          env := c.query rq.criteria (s.asked c (.connected rq.requester)).env
          ledger := ⟨rq.requester, ids, []⟩
          states := s.states ++ [.consumingPrimary]
          stage := .pulling }
  | met {s : State σ τ} (hs : s.stage = .pulling ∨ s.stage = .drained)
      (hq : rq.quota ≤ s.ledger.size) : Transition c sh rq s (s.goto (.halted none))
  | dried {s : State σ τ} (hs : s.stage = .pulling) (hq : s.ledger.size < rq.quota)
      (ha : (c.respond .pull s.env).answer = .ok none) :
      Transition c sh rq s ((s.asked c .pull).goto .drained)
  | nameless {s : State σ τ} {candidate : Search.Candidate} {path : Search.NamelessPath}
      (hs : s.stage = .pulling) (hq : s.ledger.size < rq.quota)
      (ha : (c.respond .pull s.env).answer = .ok (some candidate))
      (hid : candidate.entityId = .error path) :
      Transition c sh rq s
        ((s.asked c .pull).goto (.halted (some (.breach (.namelessPath path)))))
  | unrecognized {s : State σ τ} {candidate : Search.Candidate}
      (hs : s.stage = .pulling) (hq : s.ledger.size < rq.quota)
      (ha : (c.respond .pull s.env).answer = .ok (some candidate))
      (hid : candidate.entityId = .ok none) :
      Transition c sh rq s (((s.asked c .pull).log (.unrecognized candidate)).goto .pulling)
  | refused {s base : State σ τ} {origin : Origin} (ho : Offer c rq s origin "" base) :
      Transition c sh rq s (base.goto (.halted (some (.breach (.badCandidateId (some ""))))))
  | passedOver {s base : State σ τ} {origin : Origin} {id : String}
      (ho : Offer c rq s origin id base) (hid : id ≠ "")
      (he : s.ledger.isEligible id = false) :
      Transition c sh rq s ((base.log (.considered origin.phase)).goto origin.next)
  | chosen {s base : State σ τ} {origin : Origin} {id : String}
      (ho : Offer c rq s origin id base) (hid : id ≠ "")
      (he : s.ledger.isEligible id = true) :
      Transition c sh rq s ((base.log (.considered origin.phase)).goto (.looking origin id))
  | emitted {s : State σ τ} {origin : Origin} {id : String} {e : Entity}
      (hs : s.stage = .looking origin id)
      (ha : (c.respond (.find (some id)) s.env).answer = .ok (some e))
      (hk : e.kind = .profile) :
      Transition c sh rq s
        { s.asked c (.find (some id)) with
          records := s.records ++ [⟨id, publicFields rq.fieldNames e⟩]
          ledger := s.ledger.mark id
          events := (s.asked c (.find (some id))).events ++ [.emitted origin.phase]
          stage := origin.next }
  | skipped {s : State σ τ} {origin : Origin} {id : String} {found : Option Entity}
      (hs : s.stage = .looking origin id)
      (ha : (c.respond (.find (some id)) s.env).answer = .ok found)
      (hk : ¬ IsKind .profile found) :
      Transition c sh rq s
        (((s.asked c (.find (some id))).log (.skipped origin.phase id)).goto origin.next)
  | turned {s : State σ τ} (hs : s.stage = .drained) (hq : s.ledger.size < rq.quota) :
      Transition c sh rq s
        { s with states := s.states ++ [.consumingFallback], stage := .resolving }
  | resolved {s : State σ τ} {e : Entity} (hs : s.stage = .resolving)
      (ha : (c.respond (.find (some rq.requester)) s.env).answer = .ok (some e))
      (hk : e.kind = .profile) :
      Transition c sh rq s ((s.asked c (.find (some rq.requester))).goto (.listing e.id))
  | unresolved {s : State σ τ} {found : Option Entity} (hs : s.stage = .resolving)
      (ha : (c.respond (.find (some rq.requester)) s.env).answer = .ok found)
      (hk : ¬ IsKind .profile found) :
      Transition c sh rq s ((s.asked c (.find (some rq.requester))).goto
        (.halted (some (.breach (.requesterNotFound (some rq.requester))))))
  | listed {s : State σ τ} {profile : String} {principals : List (Option String)}
      (hs : s.stage = .listing profile)
      (ha : (c.respond (.principals profile) s.env).answer = .ok principals) :
      Transition c sh rq s
        ((s.asked c (.principals profile)).startGroups sh rq.requester principals)
  | drawn {s : State σ τ} {todo : List (Option String)} (hs : s.stage = .grouping todo)
      (hq : todo = [] ∨ rq.quota ≤ s.ledger.size) : Transition c sh rq s (s.draw sh)
  | grouped {s : State σ τ} {principal : Option String} {todo : List (Option String)}
      {e : Entity} (hs : s.stage = .grouping (principal :: todo))
      (hq : s.ledger.size < rq.quota)
      (ha : (c.respond (.find principal) s.env).answer = .ok (some e)) (hk : e.kind = .group) :
      Transition c sh rq s ((s.asked c (.find principal)).goto (.gathering e.id todo))
  | ungrouped {s : State σ τ} {principal : Option String} {todo : List (Option String)}
      {found : Option Entity} (hs : s.stage = .grouping (principal :: todo))
      (hq : s.ledger.size < rq.quota)
      (ha : (c.respond (.find principal) s.env).answer = .ok found)
      (hk : ¬ IsKind .group found) :
      Transition c sh rq s ((s.asked c (.find principal)).goto (.grouping todo))
  | gathered {s : State σ τ} {group : String} {todo members : List (Option String)}
      (hs : s.stage = .gathering group todo)
      (ha : (c.respond (.members group) s.env).answer = .ok members) :
      Transition c sh rq s
        { s.asked c (.members group) with
          pool := State.pooled s.pool (State.namesIn members)
          stage := .grouping todo }
  | finished {s : State σ τ} {todo : List String} (hs : s.stage = .filling todo)
      (hq : todo = [] ∨ rq.quota ≤ s.ledger.size) :
      Transition c sh rq s (s.finishPool rq.requester)

/-- A fault in the answer to a step's call ends the run, whatever the call was for. -/
theorem step_of_error {f : Fault} (hn : s.nextCall rq = some call)
    (ha : (c.respond call s.env).answer = .error f) :
    step c sh rq s = (s.asked c call).goto (.halted (some f)) := by
  simp only [State.nextCall] at hn
  cases hs : s.stage with
  | pulling =>
    obtain ⟨hq, rfl⟩ : _ ∧ _ = call := by simpa [hs] using hn
    simp [step, hs, hq, State.ask_of_error ha]
  | grouping todo =>
    cases todo with
    | nil => simp [hs] at hn
    | cons principal todo =>
      obtain ⟨hq, rfl⟩ : _ ∧ _ = call := by simpa [hs] using hn
      simp [step, hs, hq, State.ask_of_error ha]
  | connecting | looking | resolving | listing | gathering =>
    obtain rfl : _ = call := by simpa [hs] using hn
    simp [step, hs, State.ask_of_error ha]
  | drained | filling | halted => simp [hs] at hn

/-- Whoever is found is settled, and the run goes on behind the candidate. -/
theorem step_of_found {origin : Origin} {id : String} {found : Option Entity}
    (hs : s.stage = .looking origin id)
    (ha : (c.respond (.find (some id)) s.env).answer = .ok found) :
    step c sh rq s =
      ((s.asked c (.find (some id))).settle rq.fieldNames origin.phase id found).goto
        origin.next := by
  simp only [step, hs, State.ask_of_ok ha]

theorem not_isKind {kind : EntityKind} {found : Option Entity}
    (h : ∀ e, found = some e → e.kind ≠ kind) : ¬ IsKind kind found := by
  rintro ⟨e, he, hk⟩
  exact h e he hk

/-- Considering an id that a run offers: it is refused, passed over or chosen. -/
theorem transition_consider {base : State σ τ} {origin : Origin} {id : String}
    (ho : Offer c rq s origin id base) : Transition c sh rq s (base.consider origin id) := by
  have hl : base.ledger = s.ledger := by cases ho <;> rfl
  by_cases hid : id = ""
  · subst hid
    exact .refused ho
  · cases he : s.ledger.isEligible id with
    | false =>
      rw [State.consider_of_not_isEligible hid (hl ▸ he)]
      exact .passedOver ho hid he
    | true =>
      rw [State.consider_of_isEligible hid (hl ▸ he)]
      exact .chosen ho hid he

theorem transition_pulling (hs : s.stage = .pulling) (hq : s.ledger.size < rq.quota)
    {found : Option Search.Candidate} (ha : (c.respond .pull s.env).answer = .ok found) :
    Transition c sh rq s (step c sh rq s) := by
  simp only [step, hs, if_pos hq, State.ask_of_ok ha]
  cases found with
  | none => exact .dried hs hq ha
  | some candidate =>
    simp only [State.screen]
    cases hid : candidate.entityId with
    | error path => exact .nameless hs hq ha hid
    | ok id =>
      cases id with
      | none => exact .unrecognized hs hq ha hid
      | some id => exact transition_consider (.stream hs hq ha hid)

theorem transition_looking {origin : Origin} {id : String} (hs : s.stage = .looking origin id)
    {found : Option Entity} (ha : (c.respond (.find (some id)) s.env).answer = .ok found) :
    Transition c sh rq s (step c sh rq s) := by
  rw [step_of_found hs ha]
  rcases found with _ | ⟨_ | _, entityId, properties⟩
  · exact .skipped hs ha (not_isKind (by simp))
  · exact .emitted hs ha rfl
  · exact .skipped hs ha (not_isKind (by simp))

theorem transition_resolving (hs : s.stage = .resolving) {found : Option Entity}
    (ha : (c.respond (.find (some rq.requester)) s.env).answer = .ok found) :
    Transition c sh rq s (step c sh rq s) := by
  simp only [step, hs, State.ask_of_ok ha]
  rcases found with _ | ⟨_ | _, id, properties⟩
  · exact .unresolved hs ha (not_isKind (by simp))
  · exact .resolved hs ha rfl
  · exact .unresolved hs ha (not_isKind (by simp))

theorem transition_grouping {principal : Option String} {todo : List (Option String)}
    (hs : s.stage = .grouping (principal :: todo)) (hq : s.ledger.size < rq.quota)
    {found : Option Entity} (ha : (c.respond (.find principal) s.env).answer = .ok found) :
    Transition c sh rq s (step c sh rq s) := by
  simp only [step, hs, if_pos hq, State.ask_of_ok ha]
  rcases found with _ | ⟨_ | _, id, properties⟩
  · exact .ungrouped hs hq ha (not_isKind (by simp))
  · exact .ungrouped hs hq ha (not_isKind (by simp))
  · exact .grouped hs hq ha rfl

/-- A step that makes no call. -/
theorem transition_silent (hn : s.nextCall rq = none) : Transition c sh rq s (step c sh rq s) := by
  unfold State.nextCall at hn
  cases hs : s.stage with
  | pulling =>
    have hq : ¬ s.ledger.size < rq.quota := by simpa [hs] using hn
    simpa [step, hs, hq] using Transition.met (.inl hs) (Nat.le_of_not_lt hq)
  | drained =>
    by_cases hq : s.ledger.size < rq.quota
    · simpa [step, hs, hq] using Transition.turned hs hq
    · simpa [step, hs, hq] using Transition.met (.inr hs) (Nat.le_of_not_lt hq)
  | grouping todo =>
    cases todo with
    | nil => simpa [step, hs] using Transition.drawn hs (.inl rfl)
    | cons principal todo =>
      have hq : ¬ s.ledger.size < rq.quota := by simpa [hs] using hn
      simpa [step, hs, hq] using Transition.drawn hs (.inr (Nat.le_of_not_lt hq))
  | filling todo =>
    cases todo with
    | nil => simpa [step, hs] using Transition.finished hs (.inl rfl)
    | cons id todo =>
      by_cases hq : s.ledger.size < rq.quota
      · simpa [step, hs, hq] using transition_consider (.pool hs hq)
      · simpa [step, hs, hq] using Transition.finished hs (.inr (Nat.le_of_not_lt hq))
  | halted f => simpa [step, hs] using Transition.rested hs
  | _ => simp [hs] at hn

/-- Every step is one of the transitions. -/
theorem transition_step (c : Collaborators σ) (sh : Shuffler τ) (rq : Request)
    (s : State σ τ) : Transition c sh rq s (step c sh rq s) := by
  cases hn : s.nextCall rq with
  | none => exact transition_silent hn
  | some call =>
    cases ha : (c.respond call s.env).answer with
    | error f => exact step_of_error hn ha ▸ .faulted hn ha
    | ok a =>
      simp only [State.nextCall] at hn
      cases hs : s.stage with
      | connecting =>
        obtain rfl : _ = call := by simpa [hs] using hn
        simp only [step, hs, State.ask_of_ok ha]
        exact .connected hs ha
      | pulling =>
        obtain ⟨hq, rfl⟩ : _ ∧ _ = call := by simpa [hs] using hn
        exact transition_pulling hs hq ha
      | looking origin id =>
        obtain rfl : _ = call := by simpa [hs] using hn
        exact transition_looking hs ha
      | resolving =>
        obtain rfl : _ = call := by simpa [hs] using hn
        exact transition_resolving hs ha
      | listing profile =>
        obtain rfl : _ = call := by simpa [hs] using hn
        simp only [step, hs, State.ask_of_ok ha]
        exact .listed hs ha
      | grouping todo =>
        cases todo with
        | nil => simp [hs] at hn
        | cons principal todo =>
          obtain ⟨hq, rfl⟩ : _ ∧ _ = call := by simpa [hs] using hn
          exact transition_grouping hs hq ha
      | gathering group todo =>
        obtain rfl : _ = call := by simpa [hs] using hn
        simp only [step, hs, State.ask_of_ok ha]
        exact .gathered hs ha
      | _ => simp [hs] at hn

end PeopleFeed.Feed
