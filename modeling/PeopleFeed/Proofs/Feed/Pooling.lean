import PeopleFeed.Proofs.Feed.Beside
import PeopleFeed.Proofs.Feed.Reference

/-! Pooling the members of groups. How many steps it takes and whom it pools depends on which groups
there are and not on their order. -/
namespace PeopleFeed.Feed

variable {σ τ : Type} {c : Collaborators σ} {sh : Shuffler τ} {rq : Request} {w : World}
  {d : Register} {At : σ → Ahead → Prop} {ahead : Ahead} {s t : State σ τ}
  {principal : Option String} {todo : List (Option String)}

namespace Register

/-- Whether a principal is a group. -/
def isGroup (d : Register) (principal : Option String) : Bool :=
  (d.find principal).any (·.kind = .group)

/-- How many steps a principal takes: it is looked up, and if it is a group it is asked for its
members. -/
def visitSteps (d : Register) (principal : Option String) : Nat :=
  if d.isGroup principal then 2 else 1

def poolingSteps (d : Register) (todo : List (Option String)) : Nat :=
  (todo.map d.visitSteps).sum

theorem poolingSteps_perm {todo' : List (Option String)} (h : todo.Perm todo') :
    d.poolingSteps todo = d.poolingSteps todo' :=
  (h.map d.visitSteps).sum_eq

end Register

/-- The members of some principals have been pooled, and nothing else has happened to the feed. -/
structure Pooled (d : Register) (todo : List (Option String)) (s t : State σ τ) : Prop where
  shuffler : t.shuffler = s.shuffler
  ledger : t.ledger = s.ledger
  records : t.records = s.records
  states : t.states = s.states
  groups : t.groups = s.groups
  events : ownEvents t.events = ownEvents s.events
  nodup : t.pool.Nodup
  mem : ∀ k, k ∈ t.pool ↔ k ∈ s.pool ∨ k ∈ todo.flatMap d.groupMembers

theorem Pooled.trans {u : State σ τ} (h : Pooled d [principal] s u) (h' : Pooled d todo u t) :
    Pooled d (principal :: todo) s t where
  shuffler := h'.shuffler.trans h.shuffler
  ledger := h'.ledger.trans h.ledger
  records := h'.records.trans h.records
  states := h'.states.trans h.states
  groups := h'.groups.trans h.groups
  events := h'.events.trans h.events
  nodup := h'.nodup
  mem k := by
    rw [h'.mem, h.mem, List.flatMap_singleton, List.flatMap_cons, List.mem_append, or_assoc]

theorem Pooled.of_perm {todo' : List (Option String)} (h : Pooled d todo s t)
    (hperm : todo.Perm todo') : Pooled d todo' s t :=
  { h with mem := fun k => by rw [h.mem, (hperm.flatMap_right d.groupMembers).mem_iff] }

/-- One principal adds its members to the pool if it is a group. -/
theorem run_principal (sh : Shuffler τ) (hw : Plays c w At)
    (hmembers : ∀ group, w.answer (.members group) = .ok (d.members group))
    (hfind : w.answer (.find principal) = .ok (d.find principal))
    (hs : s.stage = .grouping (principal :: todo)) (he : At s.env ahead)
    (hq : s.ledger.size < rq.quota) (hnodup : s.pool.Nodup) :
    ∃ t, run c sh rq (d.visitSteps principal) s = t ∧ t.stage = .grouping todo ∧
      At t.env ahead ∧ Pooled d [principal] s t := by
  obtain ⟨ha, hat⟩ := hw.answer (.find principal) _ _ (by simp) he
  rw [hfind] at ha
  have hother (hstep : step c sh rq s = (s.asked c (.find principal)).goto (.grouping todo))
      (hgroup : d.isGroup principal = false) (hnone : d.groupMembers principal = []) :
      ∃ t, run c sh rq (d.visitSteps principal) s = t ∧ t.stage = .grouping todo ∧
        At t.env ahead ∧ Pooled d [principal] s t := by
    have hrun : run c sh rq (d.visitSteps principal) s =
        (s.asked c (.find principal)).goto (.grouping todo) := by
      simp only [Register.visitSteps, hgroup]
      exact (run_succ 0 s).trans hstep
    refine ⟨_, hrun, rfl, hat, ⟨rfl, rfl, rfl, rfl, rfl, ?_, hnodup, ?_⟩⟩
    · simp [State.asked, State.goto]
    · simp [hnone, State.asked, State.goto]
  rcases hf : d.find principal with _ | ⟨_ | _, group, properties⟩
  · exact hother (by simp only [step, hs, if_pos hq, State.ask_of_ok ha, hf])
      (by simp [Register.isGroup, hf]) (by simp only [Register.groupMembers, hf])
  · exact hother (by simp only [step, hs, if_pos hq, State.ask_of_ok ha, hf])
      (by simp [Register.isGroup, hf]) (by simp only [Register.groupMembers, hf])
  · -- A group takes two steps: it is looked up, then its members are asked for.
    obtain ⟨ha', hat'⟩ := hw.answer (.members group) _ _ (by simp) hat
    rw [hmembers] at ha'
    have hgroup : d.isGroup principal = true := by simp [Register.isGroup, hf]
    have hstep : step c sh rq s = (s.asked c (.find principal)).goto (.gathering group todo) := by
      simp only [step, hs, if_pos hq, State.ask_of_ok ha, hf]
    have hgathered : step c sh rq ((s.asked c (.find principal)).goto (.gathering group todo)) =
        { ((s.asked c (.find principal)).goto (.gathering group todo)).asked c
            (.members group) with
          pool := State.pooled s.pool (State.namesIn (d.members group))
          stage := .grouping todo } := by
      simp only [step, State.goto]
      exact State.ask_of_ok ha'
    have hrun : run c sh rq (d.visitSteps principal) s =
        { ((s.asked c (.find principal)).goto (.gathering group todo)).asked c
            (.members group) with
          pool := State.pooled s.pool (State.namesIn (d.members group))
          stage := .grouping todo } := by
      simp only [Register.visitSteps, hgroup, if_true]
      rw [run_succ, hstep, run_succ, hgathered]
      rfl
    refine ⟨_, hrun, rfl, hat', ⟨rfl, rfl, rfl, rfl, rfl, ?_, State.nodup_pooled hnodup, ?_⟩⟩
    · simp [State.asked, State.goto]
    · intro k
      simp only [State.mem_pooled, State.mem_namesIn, Register.groupMembers, hf, List.mem_filter,
        List.reduceOption_mem_iff, decide_eq_true_eq, List.flatMap_singleton]

/-- Looking the groups up, one after the other, pools their members. -/
theorem run_grouping (sh : Shuffler τ) (hw : Plays c w At)
    (hmembers : ∀ group, w.answer (.members group) = .ok (d.members group))
    (todo : List (Option String))
    (hfind : ∀ principal ∈ todo, w.answer (.find principal) = .ok (d.find principal))
    (hs : s.stage = .grouping todo) (he : At s.env ahead) (hq : s.ledger.size < rq.quota)
    (hnodup : s.pool.Nodup) :
    ∃ t, run c sh rq (d.poolingSteps todo) s = t ∧ t.stage = .grouping [] ∧ At t.env ahead ∧
      Pooled d todo s t := by
  induction todo generalizing s with
  | nil => exact ⟨s, rfl, hs, he, ⟨rfl, rfl, rfl, rfl, rfl, rfl, hnodup, by simp⟩⟩
  | cons principal todo ih =>
    obtain ⟨u, hrun, hst, hat, hu⟩ := run_principal sh hw hmembers
      (hfind principal List.mem_cons_self) hs he hq hnodup
    obtain ⟨t, hrun', hst', hat', ht⟩ := ih
      (fun k hk => hfind k (List.mem_cons_of_mem _ hk)) hst hat (hu.ledger ▸ hq) hu.nodup
    refine ⟨t, ?_, hst', hat', hu.trans ht⟩
    rw [Register.poolingSteps, List.map_cons, List.sum_cons, run_add, hrun]
    exact hrun'

/-- A run that has shuffled its groups and has pooled nobody yet. -/
def State.listed (sh : Shuffler τ) (principals : List (Option String)) (s : State σ τ) :
    State σ τ :=
  { s with
    shuffler := (sh.shuffle s.shuffler principals).2
    groups := principals.length
    pool := [] }

/-- The groups, if there are any, are listed and shuffled, and their members are pooled. -/
theorem run_listing (sh : Shuffler τ) (hw : Plays c w At) {profile : String}
    {principals : List (Option String)} (hne : principals ≠ [])
    (hlisted : w.answer (.principals profile) = .ok principals)
    (hfind : ∀ principal ∈ principals, w.answer (.find principal) = .ok (d.find principal))
    (hmembers : ∀ group, w.answer (.members group) = .ok (d.members group))
    (hs : s.stage = .listing profile) (he : At s.env ahead) (hq : s.ledger.size < rq.quota) :
    ∃ t, run c sh rq (d.poolingSteps principals + 1) s = t ∧ t.stage = .grouping [] ∧
      At t.env ahead ∧ Pooled d principals (s.listed sh principals) t := by
  obtain ⟨ha, hat⟩ := hw.answer (.principals profile) _ _ (by simp) he
  rw [hlisted] at ha
  have hstep : step c sh rq s = { (s.asked c (.principals profile)).listed sh principals with
      stage := .grouping (sh.shuffle s.shuffler principals).1 } := by
    simp only [step, hs]
    rw [State.ask_of_ok (a := principals) ha]
    simp [State.startGroups, State.listed, State.asked, hne]
  have hperm : (sh.shuffle s.shuffler principals).1.Perm principals := sh.perm ..
  obtain ⟨t, hrun, hst, hat', ht⟩ := run_grouping (d := d)
    (s := { (s.asked c (.principals profile)).listed sh principals with
      stage := .grouping (sh.shuffle s.shuffler principals).1 })
    sh hw hmembers _ (fun k hk => hfind k (hperm.mem_iff.1 hk)) rfl hat hq List.nodup_nil
  refine ⟨t, ?_, hst, hat', ?_⟩
  · rw [run_succ, hstep, ← d.poolingSteps_perm hperm, hrun]
  · have hpooled := ht.of_perm hperm
    exact { hpooled with
      events := hpooled.events.trans (by simp [State.listed, State.asked]) }

end PeopleFeed.Feed
