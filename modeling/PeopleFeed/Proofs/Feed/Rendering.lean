import PeopleFeed.Feed.Session
import PeopleFeed.Proofs.Feed.Boundary

/-! What a run renders: the ids that it is offered, none of which is empty. So it makes no
difference what is done with an empty id, and a breach of the contract that comes out of a run comes
from elsewhere. -/
namespace PeopleFeed.Feed

variable {σ τ : Type} {c : Collaborators σ} {sh : Shuffler τ} {rq : Request} {s base : State σ τ}
  {consider : State σ τ → Origin → String → State σ τ} {origin : Origin} {id : String}
  {fieldNames : List String} {f : Fault} {b : Breach} {p : Policy} {quota : Count} {o : Order}

/-- Takes a search result in and considers whom it points at in a given way. -/
def State.screenWith (consider : State σ τ → Origin → String → State σ τ) (s : State σ τ)
    (candidate : Search.Candidate) : State σ τ :=
  match candidate.entityId with
  | .ok (some id) => consider s .stream id
  | _ => s.screen candidate

/-- One step of a run that considers candidates in a given way. -/
def stepWith (consider : State σ τ → Origin → String → State σ τ) (c : Collaborators σ)
    (sh : Shuffler τ) (rq : Request) (s : State σ τ) : State σ τ :=
  match s.stage with
  | .pulling =>
    if s.ledger.size < rq.quota then
      s.ask c .pull fun found s =>
        match found with
        | none => s.goto .drained
        | some candidate => s.screenWith consider candidate
    else s.goto (.halted none)
  | .filling (id :: todo) =>
    if s.ledger.size < rq.quota then consider s (.pool todo) id
    else s.finishPool rq.requester
  | _ => step c sh rq s

theorem State.screenWith_eq_screen {candidate : Search.Candidate}
    (h : ∀ id, candidate.entityId = .ok (some id) →
      consider s .stream id = s.consider .stream id) :
    s.screenWith consider candidate = s.screen candidate := by
  unfold screenWith
  split
  · rename_i id hid
    rw [h id hid]
    simp only [screen, hid]
  · rfl

/-- Only what is done with the id that is offered makes a difference to a step. -/
theorem stepWith_eq_step (sh : Shuffler τ)
    (h : ∀ origin id base, Offer c rq s origin id base →
      consider base origin id = base.consider origin id) :
    stepWith consider c sh rq s = step c sh rq s := by
  -- Candidates are considered at two stages; at any other the two steps are the same by definition.
  cases hs : s.stage with
  | pulling =>
    by_cases hq : s.ledger.size < rq.quota
    · simp only [stepWith, step, hs, if_pos hq]
      cases ha : (c.respond .pull s.env).answer with
      | error f => rw [State.ask_of_error ha, State.ask_of_error ha]
      | ok found =>
        rw [State.ask_of_ok ha, State.ask_of_ok ha]
        cases found with
        | none => rfl
        | some candidate =>
          exact State.screenWith_eq_screen fun id hid =>
            h .stream id _ (.stream hs hq ha hid)
    · simp only [stepWith, step, hs, if_neg hq]
  | filling todo =>
    cases todo with
    | nil => simp only [stepWith, hs]
    | cons id todo =>
      by_cases hq : s.ledger.size < rq.quota
      · simp only [stepWith, step, hs, if_pos hq]
        exact h (.pool todo) id s (.pool hs hq)
      · simp only [stepWith, step, hs, if_neg hq]
  | _ => simp only [stepWith, hs]

theorem settle_goto (s : State σ τ) (fieldNames : List String) (phase : Phase) (id : String)
    (found : Option Entity) (stage : Stage) :
    (s.goto stage).settle fieldNames phase id found =
      (s.settle fieldNames phase id found).goto stage := by
  unfold State.settle
  split <;> rfl

namespace Session

/-- A run after a candidate has been rendered: a fault ends it, and otherwise it goes on. -/
def Part.resume (origin : Origin) (part : Part σ τ (Option Record)) : State σ τ :=
  match part.answer with
  | some (.error f) => part.state.goto (.halted (some f))
  | _ => part.state.goto origin.next

theorem resume_render_empty :
    (render c fieldNames origin.phase (some "") s).resume origin = s.consider origin "" := rfl

theorem resume_render_passed (hid : id ≠ "") (he : s.ledger.isEligible id = false) :
    (render c fieldNames origin.phase (some id) s).resume origin = s.consider origin id := by
  have hl : (s.log (.considered origin.phase)).ledger = s.ledger := rfl
  rw [State.consider_of_not_isEligible hid he]
  simp [render, hl, he, Part.resume]

theorem resume_render_chosen (sh : Shuffler τ) (rq : Request) (hid : id ≠ "")
    (he : s.ledger.isEligible id = true) :
    (render c rq.fieldNames origin.phase (some id) s).resume origin =
      step c sh rq (s.consider origin id) := by
  have hl : (s.log (.considered origin.phase)).ledger = s.ledger := rfl
  rw [State.consider_of_isEligible hid he]
  simp only [render, hl, he, if_true]
  generalize hu : s.log (.considered origin.phase) = u
  cases ha : (c.respond (.find (some id)) u.env).answer with
  | error f =>
    have hlook : (u.goto (.looking origin id)).nextCall rq = some (.find (some id)) := rfl
    rw [State.ask_of_error (s := u.goto .pulling) ha, step_of_error hlook ha]
    rfl
  | ok found =>
    have hlook : (u.goto (.looking origin id)).stage = .looking origin id := rfl
    rw [State.ask_of_ok (s := u.goto .pulling) ha, step_of_found hlook ha]
    have hsettle (stage : Stage) :
        ((u.goto stage).asked c (.find (some id))).settle rq.fieldNames origin.phase id found =
          ((u.asked c (.find (some id))).settle rq.fieldNames origin.phase id found).goto stage :=
      settle_goto (u.asked c (.find (some id))) rq.fieldNames origin.phase id found stage
    rw [hsettle, hsettle]
    rfl

end Session

/-- An offered id is rendered in one step or, if it is looked up, in two. -/
theorem run_of_offer (sh : Shuffler τ) (h : Offer c rq s origin id base) :
    ∃ n, 0 < n ∧ run c sh rq n s =
      (Session.render c rq.fieldNames origin.phase (some id) base).resume origin := by
  have hstep : run c sh rq 1 s = base.consider origin id :=
    (run_succ 0 s).trans (step_of_offer sh h)
  by_cases hid : id = ""
  · subst hid
    exact ⟨1, Nat.one_pos, hstep.trans Session.resume_render_empty.symm⟩
  · cases he : base.ledger.isEligible id with
    | false => exact ⟨1, Nat.one_pos, hstep.trans (Session.resume_render_passed hid he).symm⟩
    | true =>
      refine ⟨2, Nat.two_pos, ?_⟩
      rw [run_succ_last, hstep, Session.resume_render_chosen sh rq hid he]

/-- Along a run it makes no difference what is done with an empty id, as none is offered. -/
theorem iterate_stepWith (c : Collaborators σ) (sh : Shuffler τ) (rq : Request) (env : σ)
    (shuffler : τ)
    (hagree : ∀ t origin id, id ≠ "" → consider t origin id = State.consider t origin id)
    (k : Nat) :
    (stepWith consider c sh rq)^[k] (.initial env shuffler rq.requester) =
      run c sh rq k (.initial env shuffler rq.requester) := by
  induction k with
  | zero => rfl
  | succ k ih =>
    rw [Function.iterate_succ_apply', ih, run_succ_last]
    apply stepWith_eq_step
    intro origin id base ho
    exact hagree base origin id (ho.id_ne_empty (named_run c sh rq env shuffler k))

/-- In a step in which a fault comes up nobody is considered. -/
theorem Raises.not_offer (h : Raises c rq s f) : ¬ Offer c rq s origin id base := by
  intro ho
  -- An offer is a search result that has come with an id, or makes no call at all.
  cases h with
  | answered hn ha =>
    cases ho with
    | stream hs hq hok =>
      cases hn.symm.trans (State.nextCall_eq_pull_iff.2 ⟨hs, hq⟩)
      cases ha.symm.trans hok
    | pool hs => simp [State.nextCall, hs] at hn
  | nameless hs _ ha hid =>
    cases ho with
    | stream _ _ ha' hid' =>
      cases ha.symm.trans ha'
      cases hid.symm.trans hid'
    | pool hs' => cases hs.symm.trans hs'
  | nobody hs =>
    cases ho with
    | stream hs' | pool hs' => cases hs.symm.trans hs'

/-- A breach of the contract comes up where a collaborator answers with it, where the id that a
search result of a known kind points at is empty, and where the requester is nobody. -/
theorem raises_breach_iff :
    Raises c rq s (.breach b) ↔
      (∃ call, s.nextCall rq = some call ∧
        (c.respond call s.env).answer = .error (.breach b)) ∨
      (∃ candidate, s.nextCall rq = some .pull ∧
        (c.respond .pull s.env).answer = .ok (some candidate) ∧ candidate.name? = some "" ∧
        b = .namelessPath ⟨candidate.kind, candidate.path⟩) ∨
      ∃ found, s.stage = .resolving ∧
        (c.respond (.find (some rq.requester)) s.env).answer = .ok found ∧
        ¬ IsKind .profile found ∧ b = .requesterNotFound (some rq.requester) := by
  constructor
  · intro h
    cases h with
    | answered hn ha => exact .inl ⟨_, hn, ha⟩
    | nameless hs hq ha hid =>
      obtain ⟨hname, rfl⟩ := Search.Candidate.entityId_eq_error_iff.1 hid
      exact .inr (.inl ⟨_, State.nextCall_eq_pull_iff.2 ⟨hs, hq⟩, ha, hname, rfl⟩)
    | nobody hs ha hk => exact .inr (.inr ⟨_, hs, ha, hk, rfl⟩)
  · rintro (⟨call, hn, ha⟩ | ⟨candidate, hn, ha, hname, rfl⟩ | ⟨found, hs, ha, hk, rfl⟩)
    · exact .answered hn ha
    · obtain ⟨hs, hq⟩ := State.nextCall_eq_pull_iff.1 hn
      exact .nameless hs hq ha (Search.Candidate.entityId_eq_error_iff.2 ⟨hname, rfl⟩)
    · exact .nobody hs ha hk

/-- Every id that a run is offered is rendered, and none is empty, so that it makes no difference
what is done with an empty one. A breach of the contract comes out of a run just if it comes up in a
step in which nobody is considered: a collaborator answers with it, a search result of a known kind
points at an empty id, or the requester is nobody. -/
theorem renders_no_empty_id (c : Collaborators σ) (sh : Shuffler τ) (fieldNames : List String)
    (env : σ) (shuffler : τ) (h : o.check p = .ok quota) :
    let s k := o.run c sh fieldNames quota k env shuffler
    let rq := o.request quota fieldNames
    (∀ k origin id base, Offer c rq (s k) origin id base →
      id ≠ "" ∧ s (k + 1) = base.consider origin id ∧
        ∃ n > 0, s (k + n) =
          (Session.render c fieldNames origin.phase (some id) base).resume origin) ∧
    (∀ consider : State σ τ → Origin → String → State σ τ,
      (∀ t origin id, id ≠ "" → consider t origin id = t.consider origin id) →
      ∀ k, (stepWith consider c sh rq)^[k] (.initial env shuffler o.requester) = s k) ∧
    ∀ fuel b,
      (assemble c sh p fieldNames fuel o env shuffler).result = .error (.raised (.breach b)) ↔
        ∃ k < fuel, (∀ origin id base, ¬ Offer c rq (s k) origin id base) ∧
          ((∃ call, (s k).nextCall rq = some call ∧
            (c.respond call (s k).env).answer = .error (.breach b)) ∨
          (∃ candidate, (s k).nextCall rq = some .pull ∧
            (c.respond .pull (s k).env).answer = .ok (some candidate) ∧
            candidate.name? = some "" ∧
            b = .namelessPath ⟨candidate.kind, candidate.path⟩) ∨
          ∃ found, (s k).stage = .resolving ∧
            (c.respond (.find (some o.requester)) (s k).env).answer = .ok found ∧
            ¬ IsKind .profile found ∧ b = .requesterNotFound (some o.requester)) := by
  intro s rq
  refine ⟨fun k origin id base ho => ⟨?_, ?_, ?_⟩, fun consider hagree k => ?_, fun fuel b => ?_⟩
  · exact ho.id_ne_empty (named_run c sh rq env shuffler k)
  · exact (run_succ_last k _).trans (step_of_offer sh ho)
  · obtain ⟨n, hn, hrendered⟩ := run_of_offer sh ho
    exact ⟨n, hn, (run_add k n _).trans hrendered⟩
  · exact iterate_stepWith c sh rq env shuffler hagree k
  · rw [result_eq_raised_iff h (.inl ⟨b, rfl⟩)]
    constructor
    · rintro ⟨k, hk, hraises⟩
      exact ⟨k, hk, fun _ _ _ => hraises.not_offer, raises_breach_iff.1 hraises⟩
    · rintro ⟨k, hk, -, hwhence⟩
      exact ⟨k, hk, raises_breach_iff.2 hwhence⟩

/-- A choir that does not care to be asked for Dan and complains of an empty id then. What Ann finds
has no path, a path of slashes or one that ends with Bob, and there are gaps among her groups. -/
def touchyChoir : World where
  stream _ n := .ok
    [(⟨some "sakai/page", "", []⟩ : Search.Candidate), ⟨none, "///", []⟩,
      ⟨some "sakai/contact", "//bob", []⟩][n]?
  answer
    | .principals _ => .ok [some "", none, some "choir"]
    | .find (some "dan") => .error (.breach (.badCandidateId (some "")))
    | call => choirWorld.answer call

/-- Considers an id as a run does, but ends the run quietly at an empty one. -/
def State.considerQuietly (s : State σ τ) (origin : Origin) (id : String) : State σ τ :=
  if id = "" then s.goto (.halted none) else s.consider origin id

/-- What Ann asks of it: three people. -/
def touchyOrder : Order := ⟨"ann", [], some (.int 3)⟩

def touchyRequest : Request := touchyOrder.request (.number 3) publicFieldNames

/-- Her run after so many steps. -/
def touchyRun (k : Nat) : State Ahead Unit :=
  touchyOrder.run touchyChoir.collaborators .reverse publicFieldNames (.number 3) k
    (fun _ => .ok none) ()

def touchyOutcome : Outcome Ahead Unit :=
  assemble touchyChoir.collaborators .reverse .standard publicFieldNames 40 touchyOrder
    (fun _ => .ok none) ()

theorem offer_touchyRun :
    Offer touchyChoir.collaborators touchyRequest (touchyRun 14) (.pool ["dan", "bob", "ann"])
      "eve" (touchyRun 14) := by
  refine .pool ?_ ?_ <;> cbv

theorem result_touchyOutcome :
    touchyOutcome.result = .error (.raised (.breach (.badCandidateId (some "")))) := by
  cbv

/-- Ann is offered Eve, whose id is not empty, and then Dan. It is the choir that complains of an
empty id. -/
theorem renders_no_empty_id_touchyChoir :
    touchyOrder.check .standard = .ok (.number 3) ∧
      Offer touchyChoir.collaborators touchyRequest (touchyRun 14)
        (.pool ["dan", "bob", "ann"]) "eve" (touchyRun 14) ∧
      "eve" ≠ "" ∧
      touchyRun 15 = (touchyRun 14).consider (.pool ["dan", "bob", "ann"]) "eve" ∧
      (∃ n > 0, touchyRun (14 + n) =
        (Session.render touchyChoir.collaborators publicFieldNames .fallback (some "eve")
          (touchyRun 14)).resume (.pool ["dan", "bob", "ann"])) ∧
      (∀ (t : State Ahead Unit) (origin : Origin) (id : String),
        id ≠ "" → t.considerQuietly origin id = t.consider origin id) ∧
      (stepWith State.considerQuietly touchyChoir.collaborators .reverse touchyRequest)^[40]
        (.initial (fun _ => .ok none) () "ann") = touchyRun 40 ∧
      touchyOutcome.result = .error (.raised (.breach (.badCandidateId (some "")))) ∧
      ∃ k < 40,
        (∀ origin id base,
          ¬ Offer touchyChoir.collaborators touchyRequest (touchyRun k) origin id base) ∧
        ∃ call, (touchyRun k).nextCall touchyRequest = some call ∧
          (touchyChoir.collaborators.respond call (touchyRun k).env).answer =
            .error (.breach (.badCandidateId (some ""))) := by
  obtain ⟨hoffered, hquiet, hwhence⟩ := renders_no_empty_id (o := touchyOrder)
    touchyChoir.collaborators .reverse publicFieldNames (fun _ => .ok none) () check_three
  obtain ⟨hne, hnext, hrendered⟩ := hoffered 14 _ _ _ offer_touchyRun
  have hagree (t : State Ahead Unit) (origin : Origin) (id : String) (hid : id ≠ "") :
      t.considerQuietly origin id = t.consider origin id := by
    simp [State.considerQuietly, hid]
  obtain ⟨k, hk, hnobody, hcalled | ⟨_, -, -, -, hb⟩ | ⟨_, -, -, -, hb⟩⟩ :=
    (hwhence 40 _).1 result_touchyOutcome
  · exact ⟨check_three, offer_touchyRun, hne, hnext, hrendered, hagree, hquiet _ hagree 40,
      result_touchyOutcome, k, hk, hnobody, hcalled⟩
  · cases hb
  · cases hb

end PeopleFeed.Feed
