import PeopleFeed.Proofs.Feed.Pool
import PeopleFeed.Proofs.Feed.Run

/-! Two runs side by side. As long as their collaborators agree, the runs take the same steps, and
only what the collaborators note may set them apart. -/
namespace PeopleFeed.Feed

variable {σ σ' τ τ' : Type} {c : Collaborators σ} {c' : Collaborators σ'} {R : σ → σ' → Prop}
  {sh : Shuffler τ} {sh' : Shuffler τ'} {rq : Request} {s t : State σ τ} {s' : State σ' τ'}
  {call : Call}

/-- Two answers agree: both are the same fault, or both tell something, and that is alike. -/
inductive Agree {α : Type} (Alike : α → α → Prop) : Except Fault α → Except Fault α → Prop
  | ok {a b : α} (h : Alike a b) : Agree Alike (.ok a) (.ok b)
  | error (f : Fault) : Agree Alike (.error f) (.error f)

theorem agree_of_eq {α : Type} (Alike : α → α → Prop) (hrefl : ∀ a, Alike a a)
    {x y : Except Fault α} (h : x = y) : Agree Alike x y := by
  subst h
  cases x with
  | ok a => exact .ok (hrefl a)
  | error f => exact .error f

/-- What tells an entity from others. -/
def Entity.identity (e : Entity) : EntityKind × String := (e.kind, e.id)

/-- When two answers to a call lead to the same step, unless a record is made of them: the
properties of an entity do not matter then. -/
def Call.Alike : (call : Call) → call.Answer → call.Answer → Prop
  | .find _ => fun found found' => found.map Entity.identity = found'.map Entity.identity
  | .connected _ | .pull | .principals _ | .members _ => Eq

theorem Call.Alike.refl (call : Call) (a : call.Answer) : call.Alike a a := by
  cases call <;> rfl

/-- Whether an event is one of the run and not a note of a collaborator. -/
def Event.isOwn : Event → Bool
  | .noted _ => false
  | _ => true

def ownEvents (events : List Event) : List Event :=
  events.filter Event.isOwn

@[simp] theorem ownEvents_append (a b : List Event) :
    ownEvents (a ++ b) = ownEvents a ++ ownEvents b :=
  List.filter_append ..

@[simp] theorem ownEvents_noted (notes : List Log.Note) :
    ownEvents (notes.map Event.noted) = [] := by
  simp [ownEvents, Event.isOwn]

/-- Two sets of collaborators whose streams give the same, whatever else they are asked. -/
structure Companions (c : Collaborators σ) (c' : Collaborators σ') (R : σ → σ' → Prop) : Prop where
  query : ∀ criteria env env', R env env' → R (c.query criteria env) (c'.query criteria env')
  respond : ∀ call env env', R env env' → R (c.respond call env).env (c'.respond call env').env
  pull : ∀ env env', R env env' →
    (c.respond .pull env).answer = (c'.respond .pull env').answer

/-- Two runs are in the same place. Their pools hold the same, maybe in another order. -/
structure Beside (R : σ → σ' → Prop) (s : State σ τ) (s' : State σ' τ') : Prop where
  env : R s.env s'.env
  stage : s.stage = s'.stage
  ledger : s.ledger = s'.ledger
  records : s.records = s'.records
  states : s.states = s'.states
  groups : s.groups = s'.groups
  pool : s.pool.Perm s'.pool
  events : ownEvents s.events = ownEvents s'.events

theorem beside_initial {env : σ} {env' : σ'} (h : R env env') (shuffler : τ) (shuffler' : τ')
    (requester : String) :
    Beside R (.initial env shuffler requester) (.initial env' shuffler' requester) :=
  ⟨h, rfl, rfl, rfl, rfl, rfl, .rfl, rfl⟩

/-- Two calls whose answers agree lead to what holds after a fault and after answers that are
alike. -/
theorem ask_agree {P : State σ τ → State σ' τ' → Prop} {Alike : call.Answer → call.Answer → Prop}
    (hagree : Agree Alike (c.respond call s.env).answer (c'.respond call s'.env).answer)
    {next : call.Answer → State σ τ → State σ τ} {next' : call.Answer → State σ' τ' → State σ' τ'}
    (hnext : ∀ a a', Alike a a' → P (next a (s.asked c call)) (next' a' (s'.asked c' call)))
    (hfault : ∀ f, P ((s.asked c call).goto (.halted (some f)))
      ((s'.asked c' call).goto (.halted (some f)))) :
    P (s.ask c call next) (s'.ask c' call next') := by
  generalize ha : (c.respond call s.env).answer = x at hagree
  generalize ha' : (c'.respond call s'.env).answer = x' at hagree
  cases hagree with
  | ok halike =>
    rw [State.ask_of_ok ha, State.ask_of_ok ha']
    exact hnext _ _ halike
  | error f =>
    rw [State.ask_of_error ha, State.ask_of_error ha']
    exact hfault f

namespace Beside

theorem goto (h : Beside R s s') (stage : Stage) : Beside R (s.goto stage) (s'.goto stage) :=
  { h with stage := rfl }

theorem log (h : Beside R s s') (e : Event) : Beside R (s.log e) (s'.log e) :=
  { h with events := by simp [State.log, h.events] }

theorem asked (h : Beside R s s')
    (henv : R (c.respond call s.env).env (c'.respond call s'.env).env) :
    Beside R (s.asked c call) (s'.asked c' call) :=
  { h with
    env := henv
    events := by simp [State.asked, h.events] }

theorem consider (h : Beside R s s') (origin : Origin) (id : String) :
    Beside R (s.consider origin id) (s'.consider origin id) := by
  unfold State.consider
  split
  · exact h.goto _
  · have hlog := h.log (.considered origin.phase)
    cases he : s.ledger.isEligible id with
    | false =>
      have he' : s'.ledger.isEligible id = false := h.ledger ▸ he
      simpa [State.log, he, he'] using hlog.goto origin.next
    | true =>
      have he' : s'.ledger.isEligible id = true := h.ledger ▸ he
      simpa [State.log, he, he'] using hlog.goto (.looking origin id)

theorem screen (h : Beside R s s') (candidate : Search.Candidate) :
    Beside R (s.screen candidate) (s'.screen candidate) := by
  unfold State.screen
  split
  · exact h.goto _
  · exact (h.log _).goto _
  · exact h.consider ..

theorem settle (h : Beside R s s') (fieldNames : List String) (phase : Phase) (id : String)
    (found : Option Entity) :
    Beside R (s.settle fieldNames phase id found) (s'.settle fieldNames phase id found) := by
  unfold State.settle
  split
  · exact { h with
      ledger := by simp [h.ledger]
      records := by simp [h.records]
      events := by simp [h.events] }
  · exact h.log _

/-- Both runs make a call and go on with answers that agree. -/
theorem ask (h : Beside R s s')
    (henv : R (c.respond call s.env).env (c'.respond call s'.env).env)
    {Alike : call.Answer → call.Answer → Prop}
    (hagree : Agree Alike (c.respond call s.env).answer (c'.respond call s'.env).answer)
    {next : call.Answer → State σ τ → State σ τ} {next' : call.Answer → State σ' τ' → State σ' τ'}
    (hnext : ∀ a a', Alike a a' → Beside R (s.asked c call) (s'.asked c' call) →
      Beside R (next a (s.asked c call)) (next' a' (s'.asked c' call))) :
    Beside R (s.ask c call next) (s'.ask c' call next') := by
  have hasked := h.asked henv
  exact ask_agree hagree (fun a a' halike => hnext a a' halike hasked)
    fun f => hasked.goto _

/-- Two runs that have ended in the same place stay there. -/
theorem run_of_halted {m n : Nat} {f : Option Fault}
    (h : Beside R (run c sh rq m s) (run c' sh' rq m s'))
    (hend : (run c sh rq m s).stage = .halted f) (hmn : m ≤ n) :
    Beside R (run c sh rq n s) (run c' sh' rq n s') := by
  rw [run_eq_of_halted hend hmn, run_eq_of_halted (h.stage.symm.trans hend) hmn]
  exact h

/-- What has come of the two runs is the same. -/
theorem conclude (h : Beside R s s') (p : Policy) (quota : Count) :
    Feed.conclude p quota s = Feed.conclude p quota s' := by
  simp only [Feed.conclude, resultOf, h.stage, h.ledger, h.records, h.states]

end Beside

/-- The stages from the list of the requester's groups to the pool of their members. -/
def Stage.isPooling : Stage → Bool
  | .listing _ | .grouping _ | .gathering .. => true
  | _ => false

/-- Where the answers agree, so do the next states. A record shows the properties of an entity, so
that the lookup of a candidate has to tell these as well. -/
theorem beside_step (sh : Shuffler τ) (sh' : Shuffler τ') (hc : Companions c c' R)
    (h : Beside R s s') (hst : s.stage.isPooling = false)
    (hagree : ∀ call, s.nextCall rq = some call →
      Agree call.Alike (c.respond call s.env).answer (c'.respond call s'.env).answer)
    (hlook : ∀ origin id, s.stage = .looking origin id →
      (c.respond (.find (some id)) s.env).answer = (c'.respond (.find (some id)) s'.env).answer) :
    Beside R (step c sh rq s) (step c' sh' rq s') := by
  have henv := fun call => hc.respond call _ _ h.env
  have hstage := h.stage
  have hledger := h.ledger
  cases hs : s.stage with
  | connecting =>
    have ha := hagree (.connected rq.requester) (by simp [State.nextCall, hs])
    simp only [step, ← hstage, hs]
    refine h.ask (henv _) ha fun ids ids' hids hu => ?_
    obtain rfl : ids = ids' := hids
    exact { hu with
      env := hc.query _ _ _ hu.env
      stage := rfl
      ledger := rfl
      states := congrArg (· ++ [AssemblyState.consumingPrimary]) h.states }
  | pulling =>
    simp only [step, ← hstage, ← hledger, hs]
    split
    · refine h.ask (henv _) (agree_of_eq Eq Eq.refl (hc.pull _ _ h.env))
        fun found found' hfound hu => ?_
      subst hfound
      cases found with
      | none => exact hu.goto _
      | some candidate => exact hu.screen candidate
    · exact h.goto _
  | looking origin id =>
    simp only [step, ← hstage, hs]
    refine h.ask (henv _) (agree_of_eq Eq Eq.refl (hlook origin id hs))
      fun found found' hfound hu => ?_
    subst hfound
    exact (hu.settle ..).goto _
  | drained =>
    have hq : s.ledger.size < rq.quota ↔ s'.ledger.size < rq.quota := by rw [hledger]
    by_cases hroom : s.ledger.size < rq.quota
    · simp only [step, ← hstage, hs, if_pos hroom, if_pos (hq.1 hroom)]
      exact { h with
        stage := rfl
        states := congrArg (· ++ [AssemblyState.consumingFallback]) h.states }
    · simp only [step, ← hstage, hs, if_neg hroom, if_neg (mt hq.2 hroom)]
      exact h.goto _
  | resolving =>
    have ha := hagree (.find (some rq.requester)) (by simp [State.nextCall, hs])
    simp only [step, ← hstage, hs]
    refine h.ask (henv _) ha fun found found' hfound hu => ?_
    rcases found with _ | ⟨_ | _, id, properties⟩ <;>
      rcases found' with _ | ⟨_ | _, id', properties'⟩ <;>
      simp [Call.Alike, Entity.identity] at hfound
    · exact hu.goto _
    · subst hfound
      exact hu.goto _
    · exact hu.goto _
  | filling todo =>
    cases todo with
    | nil =>
      simp only [step, ← hstage, hs, State.finishPool, ← hledger, h.groups, h.pool.length_eq]
      exact (h.log _).goto _
    | cons id todo =>
      simp only [step, ← hstage, ← hledger, hs]
      split
      · exact h.consider ..
      · simp only [State.finishPool, ← hledger, h.groups, h.pool.length_eq]
        exact (h.log _).goto _
  | halted f => simpa only [step, ← hstage, hs] using h
  | listing | grouping | gathering => simp [hs, Stage.isPooling] at hst

/-- Only the groups and the pool are shuffled. -/
theorem shuffler_step (c : Collaborators σ) (sh : Shuffler τ) (rq : Request)
    (hst : s.stage.isPooling = false) : (step c sh rq s).shuffler = s.shuffler := by
  have h := transition_step c sh rq s
  generalize step c sh rq s = t at h
  cases h with
  | refused ho | passedOver ho | chosen ho => cases ho <;> rfl
  | listed hs | drawn hs => simp [hs, Stage.isPooling] at hst
  | _ => rfl

theorem shuffler_run (c : Collaborators σ) (sh : Shuffler τ) (rq : Request) {n : Nat}
    (hn : ∀ m < n, (run c sh rq m s).stage.isPooling = false) :
    (run c sh rq n s).shuffler = s.shuffler := by
  induction n with
  | zero => rfl
  | succ n ih =>
    rw [run_succ_last, shuffler_step c sh rq (hn n (Nat.lt_succ_self n))]
    exact ih fun m hm => hn m (hm.trans (Nat.lt_succ_self n))

section

variable {s' : State σ' τ}

/-- Two runs are in the same place and shuffle alike from there on. -/
structure Abreast (R : σ → σ' → Prop) (s : State σ τ) (s' : State σ' τ) : Prop
    extends Beside R s s' where
  shuffler : s.shuffler = s'.shuffler

namespace Abreast

theorem goto (h : Abreast R s s') (stage : Stage) : Abreast R (s.goto stage) (s'.goto stage) :=
  ⟨h.toBeside.goto stage, h.shuffler⟩

theorem asked (h : Abreast R s s')
    (henv : R (c.respond call s.env).env (c'.respond call s'.env).env) :
    Abreast R (s.asked c call) (s'.asked c' call) :=
  ⟨h.toBeside.asked henv, h.shuffler⟩

/-- The groups start in the same shuffled order. -/
theorem startGroups (sh : Shuffler τ) (h : Abreast R s s') (requester : String)
    (principals : List (Option String)) :
    Abreast R (s.startGroups sh requester principals) (s'.startGroups sh requester principals) := by
  have hb : Beside R { s with groups := principals.length, pool := [] }
      { s' with groups := principals.length, pool := [] } :=
    { h.toBeside with groups := rfl, pool := .rfl }
  unfold State.startGroups
  split
  · exact ⟨(hb.log _).goto _, h.shuffler⟩
  · rw [h.shuffler]
    exact ⟨{ hb with stage := rfl }, rfl⟩

/-- Two pools that hold the same are drawn in the same order. -/
theorem draw (sh : Shuffler τ) (h : Abreast R s s') : Abreast R (s.draw sh) (s'.draw sh) := by
  unfold State.draw
  rw [h.shuffler, State.sortedPool_congr h.pool]
  exact ⟨{ h.toBeside with stage := rfl }, rfl⟩

end Abreast

/-- The groups are listed and looked up alike where the answers agree. -/
theorem abreast_step_pooling (sh : Shuffler τ) (hc : Companions c c' R) (h : Abreast R s s')
    (hst : s.stage.isPooling = true)
    (hagree : ∀ call, s.nextCall rq = some call →
      Agree call.Alike (c.respond call s.env).answer (c'.respond call s'.env).answer) :
    Abreast R (step c sh rq s) (step c' sh rq s') := by
  have hasked := fun call => h.asked (hc.respond call _ _ h.env)
  have hstage := h.stage
  cases hs : s.stage with
  | listing profile =>
    simp only [step, ← hstage, hs]
    refine ask_agree (hagree (.principals profile) (by simp [State.nextCall, hs]))
      (fun principals principals' hp => ?_) fun f => (hasked _).goto _
    obtain rfl : principals = principals' := hp
    exact (hasked _).startGroups sh ..
  | grouping todo =>
    cases todo with
    | nil =>
      simp only [step, ← hstage, hs]
      exact h.draw sh
    | cons principal todo =>
      have hledger := h.ledger
      simp only [step, ← hstage, ← hledger, hs]
      split
      · rename_i hq
        refine ask_agree (hagree (.find principal) (by simp [State.nextCall, hs, hq]))
          (fun found found' hfound => ?_) fun f => (hasked _).goto _
        rcases found with _ | ⟨_ | _, id, properties⟩ <;>
          rcases found' with _ | ⟨_ | _, id', properties'⟩ <;>
          simp [Call.Alike, Entity.identity] at hfound
        · exact (hasked _).goto _
        · exact (hasked _).goto _
        · subst hfound
          exact (hasked _).goto _
      · exact h.draw sh
  | gathering group todo =>
    simp only [step, ← hstage, hs]
    refine ask_agree (hagree (.members group) (by simp [State.nextCall, hs]))
      (fun members members' hm => ?_) fun f => (hasked _).goto _
    obtain rfl : members = members' := hm
    exact { hasked (.members group) with
      stage := rfl
      pool := State.pooled_perm h.pool }
  | _ => simp [hs, Stage.isPooling] at hst

/-- One step of two runs with one shuffler. -/
theorem abreast_step (sh : Shuffler τ) (hc : Companions c c' R) (h : Abreast R s s')
    (hagree : ∀ call, s.nextCall rq = some call →
      Agree call.Alike (c.respond call s.env).answer (c'.respond call s'.env).answer)
    (hlook : ∀ origin id, s.stage = .looking origin id →
      (c.respond (.find (some id)) s.env).answer = (c'.respond (.find (some id)) s'.env).answer) :
    Abreast R (step c sh rq s) (step c' sh rq s') := by
  cases hst : s.stage.isPooling with
  | true => exact abreast_step_pooling sh hc h hst hagree
  | false =>
    have hst' : s'.stage.isPooling = false := h.stage ▸ hst
    refine ⟨beside_step sh sh hc h.toBeside hst hagree hlook, ?_⟩
    rw [shuffler_step c sh rq hst, shuffler_step c' sh rq hst', h.shuffler]

end

end PeopleFeed.Feed
