import PeopleFeed.Proofs.Feed.Filling
import PeopleFeed.Proofs.Feed.Pooling

/-! Two runs whose directories list groups and members in different orders, each with a shuffler of
its own. They are in the same place until they list the groups, and again once all members are
pooled. -/
namespace PeopleFeed.Feed

variable {σ σ' τ τ' : Type} {c : Collaborators σ} {c' : Collaborators σ'} {sh : Shuffler τ}
  {rq : Request} {w w' : World} {At : σ → Ahead → Prop} {At' : σ' → Ahead → Prop} {ahead : Ahead}
  {s t : State σ τ} {s' : State σ' τ'} {call : Call} {requester : String} {n : Nat}
  {env : σ} {env' : σ'}

/-- The directory of a world. Where the world tells nothing, it is empty. -/
def World.register (w : World) : Register where
  find id := (w.answer (.find id)).toOption.join
  principals profile := (w.answer (.principals profile)).toOption.getD []
  members group := (w.answer (.members group)).toOption.getD []

theorem World.find_register {id : Option String} {found : Option Entity}
    (h : w.answer (.find id) = .ok found) : w.answer (.find id) = .ok (w.register.find id) := by
  simp [World.register, h, Except.toOption]

theorem World.members_register {group : String} {members : List (Option String)}
    (h : w.answer (.members group) = .ok members) : w.register.members group = members := by
  simp [World.register, h, Except.toOption]

/-- Two worlds tell the same, except that the groups of a requester may be listed in another order,
and that the members of a group may be so too, with repetitions and with gaps. The listings and the
lookups of the requester's groups succeed. -/
structure Reordered (w w' : World) (requester : String) : Prop where
  stream : w.stream = w'.stream
  connected : w.answer (.connected requester) = w'.answer (.connected requester)
  find : ∀ id, w.answer (.find id) = w'.answer (.find id)
  principals : ∀ e, w.answer (.find (some requester)) = .ok (some e) → e.kind = .profile →
    ∃ principals principals', w.answer (.principals e.id) = .ok principals ∧
      w'.answer (.principals e.id) = .ok principals' ∧ principals.Perm principals' ∧
      ∀ principal ∈ principals, ∃ found, w.answer (.find principal) = .ok found
  members : ∀ group, ∃ members members', w.answer (.members group) = .ok members ∧
    w'.answer (.members group) = .ok members' ∧
    ∀ name, name ∈ State.namesIn members ↔ name ∈ State.namesIn members'

namespace Reordered

/-- The step of a run that does not pool asks for nothing that may be listed in another order. -/
theorem answer_eq (h : Reordered w w' rq.requester) (hst : s.stage.isPooling = false)
    (hn : s.nextCall rq = some call) (hcall : call ≠ .pull) :
    w.answer call = w'.answer call := by
  unfold State.nextCall at hn
  cases hs : s.stage with
  | connecting =>
    obtain rfl : _ = call := by simpa [hs] using hn
    exact h.connected
  | pulling =>
    obtain ⟨-, rfl⟩ : _ ∧ _ = call := by simpa [hs] using hn
    exact absurd rfl hcall
  | looking | resolving =>
    obtain rfl : _ = call := by simpa [hs] using hn
    exact h.find _
  | listing | grouping | gathering => simp [hs, Stage.isPooling] at hst
  | _ => simp [hs] at hn

theorem find_register (h : Reordered w w' requester) :
    w.register.find = w'.register.find := by
  funext id
  simp only [World.register, h.find]

theorem poolingSteps_eq (h : Reordered w w' requester) (todo : List (Option String)) :
    w.register.poolingSteps todo = w'.register.poolingSteps todo := by
  have hsteps : w.register.visitSteps = w'.register.visitSteps := by
    funext principal
    rw [Register.visitSteps, Register.isGroup, h.find_register]
    rfl
  rw [Register.poolingSteps, hsteps]
  rfl

theorem members_register (h : Reordered w w' requester) (group : String) :
    w.answer (.members group) = .ok (w.register.members group) ∧
      w'.answer (.members group) = .ok (w'.register.members group) ∧
      ∀ name, name ∈ State.namesIn (w.register.members group) ↔
        name ∈ State.namesIn (w'.register.members group) := by
  obtain ⟨members, members', ha, ha', hnames⟩ := h.members group
  rw [World.members_register ha, World.members_register ha']
  exact ⟨ha, ha', hnames⟩

theorem mem_groupMembers (h : Reordered w w' requester) {principal : Option String}
    {name : String} :
    name ∈ w.register.groupMembers principal ↔ name ∈ w'.register.groupMembers principal := by
  simp only [Register.mem_groupMembers, h.find_register, (h.members_register _).2.2]

end Reordered

/-- The same lies ahead of both collaborators. -/
def SameAhead (At : σ → Ahead → Prop) (At' : σ' → Ahead → Prop) (env : σ) (env' : σ') : Prop :=
  ∃ ahead, At env ahead ∧ At' env' ahead

theorem companions_of_plays (hw : Plays c w At) (hw' : Plays c' w' At')
    (hstream : w.stream = w'.stream) : Companions c c' (SameAhead At At') where
  query criteria env env' := by
    rintro ⟨ahead, he, he'⟩
    exact ⟨_, hw.query _ _ _ he, hstream ▸ hw'.query _ _ _ he'⟩
  respond call env env' := by
    rintro ⟨ahead, he, he'⟩
    by_cases hcall : call = .pull
    · subst hcall
      exact ⟨_, (hw.pull _ _ he).2, (hw'.pull _ _ he').2⟩
    · exact ⟨ahead, (hw.answer _ _ _ hcall he).2, (hw'.answer _ _ _ hcall he').2⟩
  pull env env' := by
    rintro ⟨ahead, he, he'⟩
    rw [(hw.pull _ _ he).1, (hw'.pull _ _ he').1]

/-- A run turns to the groups where its requester has been found. -/
theorem listing_transition (hw : Plays c w At) (he : At s.env ahead)
    (h : Transition c sh rq s t) (hs : s.stage.isPooling = false)
    (ht : t.stage.isPooling = true) :
    ∃ e, w.answer (.find (some rq.requester)) = .ok (some e) ∧ e.kind = .profile ∧
      t.stage = .listing e.id := by
  cases h with
  | resolved hst ha hk =>
    rw [(hw.answer _ _ _ (by simp) he).1] at ha
    exact ⟨_, ha, hk, rfl⟩
  | passedOver ho | chosen ho => cases ho <;> simp [State.goto, Origin.next, Stage.isPooling] at ht
  | @emitted origin | @skipped origin =>
    cases origin <;> simp [State.goto, Origin.next, Stage.isPooling] at ht
  | rested | listed hst | grouped hst | ungrouped hst | gathered hst | drawn hst =>
    simp_all [Stage.isPooling]
  | _ => simp [State.goto, State.finishPool, Stage.isPooling] at ht

theorem exists_first_pooling (h : ∃ m, (run c sh rq m s).stage.isPooling = true) :
    ∃ m, (run c sh rq m s).stage.isPooling = true ∧
      ∀ k < m, (run c sh rq k s).stage.isPooling = false := by
  refine ⟨Nat.find h, Nat.find_spec h, fun k hk => ?_⟩
  simpa using Nat.find_min h hk

/-- A run that comes to pool is about to list the groups of its requester. -/
theorem exists_profile_of_pooling (hw : Plays c w At) (hs : s.stage.isPooling = false)
    (hn : (run c sh rq n s).stage.isPooling = true)
    (hfirst : ∀ k < n, (run c sh rq k s).stage.isPooling = false)
    (henv : ∀ k < n, ∃ ahead, At (run c sh rq k s).env ahead) :
    ∃ e, w.answer (.find (some rq.requester)) = .ok (some e) ∧ e.kind = .profile ∧
      (run c sh rq n s).stage = .listing e.id := by
  cases n with
  | zero => exact absurd hn (by simp [run, runTo, hs])
  | succ k =>
    obtain ⟨ahead, he⟩ := henv k (Nat.lt_succ_self k)
    rw [run_succ_last] at hn ⊢
    exact listing_transition hw he (transition_step ..) (hfirst k (Nat.lt_succ_self k)) hn

/-- Two runs have pooled the same and are about to draw. Each has shuffled its groups before. -/
structure Gathered (R : σ → σ' → Prop) (sh : Shuffler τ) (sh' : Shuffler τ') (shuffler : τ)
    (shuffler' : τ') (s : State σ τ) (s' : State σ' τ') : Prop where
  beside : Beside R s s'
  stage : s.stage = .grouping []
  nodup : s.pool.Nodup
  named : "" ∉ s.pool
  shuffled : ∃ principals principals' : List (Option String), principals.Perm principals' ∧
    s.shuffler = (sh.shuffle shuffler principals).2 ∧
    s'.shuffler = (sh'.shuffle shuffler' principals').2

section

variable (h : Reordered w w' rq.requester) (hw : Plays c w At) (hw' : Plays c' w' At')
  (sh : Shuffler τ) (sh' : Shuffler τ')

include h hw hw'

theorem beside_step_of_reordered (hb : Beside (SameAhead At At') s s')
    (hst : s.stage.isPooling = false) :
    Beside (SameAhead At At') (step c sh rq s) (step c' sh' rq s') := by
  have hc := companions_of_plays hw hw' h.stream
  obtain ⟨ahead, he, he'⟩ := hb.env
  refine beside_step sh sh' hc hb hst (fun call hn => ?_) fun origin id _ => ?_
  · refine agree_of_eq _ (Call.Alike.refl _) ?_
    by_cases hcall : call = .pull
    · subst hcall
      exact hc.pull _ _ hb.env
    · rw [(hw.answer _ _ _ hcall he).1, (hw'.answer _ _ _ hcall he').1]
      exact h.answer_eq hst hn hcall
  · rw [(hw.answer _ _ _ (by simp) he).1, (hw'.answer _ _ _ (by simp) he').1]
    exact h.find _

/-- Two runs are in the same place as long as they do not pool. -/
theorem beside_run (hb : Beside (SameAhead At At') s s')
    (hn : ∀ m < n, (run c sh rq m s).stage.isPooling = false) :
    Beside (SameAhead At At') (run c sh rq n s) (run c' sh' rq n s') := by
  induction n with
  | zero => exact hb
  | succ n ih =>
    rw [run_succ_last, run_succ_last]
    exact beside_step_of_reordered h hw hw' sh sh'
      (ih fun m hm => hn m (hm.trans (Nat.lt_succ_self n))) (hn n (Nat.lt_succ_self n))

/-- A requester without groups: both runs are over. -/
theorem beside_step_of_ungrouped {e : Entity} (hb : Beside (SameAhead At At') s s')
    (hs : s.stage = .listing e.id) (hnone : w.answer (.principals e.id) = .ok [])
    (hnone' : w'.answer (.principals e.id) = .ok []) :
    Beside (SameAhead At At') (step c sh rq s) (step c' sh' rq s') ∧
      (step c sh rq s).stage = .halted none := by
  obtain ⟨ahead, he, he'⟩ := hb.env
  have hc := companions_of_plays hw hw' h.stream
  have ha := (hw.answer (.principals e.id) _ _ (by simp) he).1.trans hnone
  have ha' := (hw'.answer (.principals e.id) _ _ (by simp) he').1.trans hnone'
  have hstep : step c sh rq s =
      (s.asked c (.principals e.id)).startGroups sh rq.requester [] := by
    simp only [step, hs]
    exact State.ask_of_ok ha
  have hstep' : step c' sh' rq s' =
      (s'.asked c' (.principals e.id)).startGroups sh' rq.requester [] := by
    simp only [step, ← hb.stage, hs]
    exact State.ask_of_ok ha'
  have hasked := hb.asked (hc.respond (.principals e.id) _ _ hb.env)
  have hempty : Beside (SameAhead At At')
      { s.asked c (.principals e.id) with groups := 0, pool := [] }
      { s'.asked c' (.principals e.id) with groups := 0, pool := [] } :=
    { hasked with groups := rfl, pool := .rfl }
  rw [hstep, hstep']
  exact ⟨(hempty.log _).goto _, rfl⟩

/-- A requester with groups: both runs pool the same members in as many steps. -/
theorem gathered_of_listing {e : Entity} (hb : Beside (SameAhead At At') s s')
    (hs : s.stage = .listing e.id) (hq : s.ledger.size < rq.quota)
    {principals principals' : List (Option String)}
    (hlisted : w.answer (.principals e.id) = .ok principals)
    (hlisted' : w'.answer (.principals e.id) = .ok principals')
    (hperm : principals.Perm principals') (hne : principals ≠ [])
    (hfind : ∀ principal ∈ principals, ∃ found, w.answer (.find principal) = .ok found) :
    ∃ n, Gathered (SameAhead At At') sh sh' s.shuffler s'.shuffler (run c sh rq n s)
      (run c' sh' rq n s') := by
  obtain ⟨ahead, he, he'⟩ := hb.env
  have hfound : ∀ principal ∈ principals,
      w.answer (.find principal) = .ok (w.register.find principal) := by
    intro principal hp
    obtain ⟨found, ha⟩ := hfind principal hp
    exact World.find_register ha
  have hfound' : ∀ principal ∈ principals',
      w'.answer (.find principal) = .ok (w'.register.find principal) := by
    intro principal hp
    rw [← h.find, ← h.find_register]
    exact hfound principal (hperm.mem_iff.2 hp)
  have hne' : principals' ≠ [] := fun hnil => hne (hnil ▸ hperm).eq_nil
  obtain ⟨t, hrun, hst, hat, ht⟩ := run_listing sh hw hne hlisted hfound
    (fun group => (h.members_register group).1) hs he hq
  obtain ⟨t', hrun', hst', hat', ht'⟩ := run_listing sh' hw' hne' hlisted' hfound'
    (fun group => (h.members_register group).2.1) (hb.stage ▸ hs) he' (hb.ledger ▸ hq)
  have hsteps : w'.register.poolingSteps principals' = w.register.poolingSteps principals := by
    rw [h.poolingSteps_eq, w'.register.poolingSteps_perm hperm]
  have hmem (k : String) : k ∈ t.pool ↔ k ∈ t'.pool := by
    rw [ht.mem, ht'.mem, ← (hperm.flatMap_right w'.register.groupMembers).mem_iff]
    simp only [State.listed, List.mem_flatMap, h.mem_groupMembers]
  refine ⟨w.register.poolingSteps principals + 1, ?_⟩
  rw [hrun, ← hsteps, hrun']
  constructor
  · exact {
      env := ⟨ahead, hat, hat'⟩
      stage := hst.trans hst'.symm
      ledger := ht.ledger.trans (hb.ledger.trans ht'.ledger.symm)
      records := ht.records.trans (hb.records.trans ht'.records.symm)
      states := ht.states.trans (hb.states.trans ht'.states.symm)
      groups := ht.groups.trans (hperm.length_eq.trans ht'.groups.symm)
      pool := (List.perm_ext_iff_of_nodup ht.nodup ht'.nodup).2 hmem
      events := ht.events.trans (hb.events.trans ht'.events.symm) }
  · exact hst
  · exact ht.nodup
  · rw [ht.mem]
    simp [State.listed, Register.empty_notMem_groupMembers]
  · exact ⟨principals, principals', hperm, ht.shuffler, ht'.shuffler⟩

theorem over_or_gathered_of_listing {e : Entity} (hb : Beside (SameAhead At At') s s')
    (hs : s.stage = .listing e.id) (hq : s.ledger.size < rq.quota)
    (hself : w.answer (.find (some rq.requester)) = .ok (some e)) (hk : e.kind = .profile) :
    (Beside (SameAhead At At') (step c sh rq s) (step c' sh' rq s') ∧
        (step c sh rq s).stage = .halted none) ∨
      ∃ n, Gathered (SameAhead At At') sh sh' s.shuffler s'.shuffler (run c sh rq n s)
        (run c' sh' rq n s') := by
  obtain ⟨principals, principals', hlisted, hlisted', hperm, hfind⟩ := h.principals e hself hk
  by_cases hne : principals = []
  · subst hne
    obtain rfl : principals' = [] := hperm.symm.eq_nil
    exact .inl (beside_step_of_ungrouped h hw hw' sh sh' hb hs hlisted hlisted')
  · exact .inr (gathered_of_listing h hw hw' sh sh' hb hs hq hlisted hlisted' hperm hne hfind)

/-- Either two runs are always in the same place, or they come to draw from the same pool. -/
theorem beside_or_gathered (henv : SameAhead At At' env env')
    (shuffler : τ) (shuffler' : τ') :
    (∀ n, Beside (SameAhead At At') (run c sh rq n (.initial env shuffler rq.requester))
      (run c' sh' rq n (.initial env' shuffler' rq.requester))) ∨
    ∃ m, Gathered (SameAhead At At') sh sh' shuffler shuffler'
      (run c sh rq m (.initial env shuffler rq.requester))
      (run c' sh' rq m (.initial env' shuffler' rq.requester)) := by
  have hb := beside_initial henv shuffler shuffler' rq.requester
  by_cases hpool : ∃ m, (run c sh rq m (.initial env shuffler rq.requester)).stage.isPooling = true
  · obtain ⟨m, hm, hfirst⟩ := exists_first_pooling hpool
    have hbeside : ∀ k ≤ m, Beside (SameAhead At At')
        (run c sh rq k (.initial env shuffler rq.requester))
        (run c' sh' rq k (.initial env' shuffler' rq.requester)) :=
      fun k hk => beside_run h hw hw' sh sh' hb fun j hj => hfirst j (hj.trans_le hk)
    obtain ⟨e, hself, hk, hst⟩ := exists_profile_of_pooling hw rfl hm hfirst fun k hk =>
      have ⟨ahead, he, _⟩ := (hbeside k hk.le).env
      ⟨ahead, he⟩
    have hq := (sound_run c sh rq env shuffler m).room (by simp [hst, Stage.needsRoom])
    rcases over_or_gathered_of_listing h hw hw' sh sh' (hbeside m le_rfl) hst hq hself hk with
      ⟨hnext, hend⟩ | ⟨n, hg⟩
    · left
      intro n
      rcases Nat.lt_or_ge m n with hn | hn
      · rw [← run_succ_last, ← run_succ_last] at hnext
        rw [← run_succ_last] at hend
        exact hnext.run_of_halted hend hn
      · exact hbeside n hn
    · right
      refine ⟨m + n, ?_⟩
      have hsh := shuffler_run c sh rq hfirst
      have hsh' := shuffler_run c' sh' rq fun k hk =>
        (congrArg Stage.isPooling (hbeside k hk.le).stage).symm.trans (hfirst k hk)
      rw [run_add, run_add]
      rw [hsh, hsh'] at hg
      exact hg
  · left
    intro n
    refine beside_run h hw hw' sh sh' hb fun m _ => ?_
    simpa using not_exists.1 hpool m

end

theorem Stage.isPooling_of_isFilling {stage : Stage} (h : stage.isFilling = true) :
    stage.isPooling = false := by
  cases stage with
  | listing | grouping | gathering => simp [Stage.isFilling] at h
  | _ => rfl

theorem step_of_gathered (c : Collaborators σ) (sh : Shuffler τ) (rq : Request)
    (hs : s.stage = .grouping []) : step c sh rq s = s.draw sh := by
  simp [step, hs]

end PeopleFeed.Feed
