import PeopleFeed.Proofs.Feed.Reference

/-! Candidates of a directory whose lookups succeed: considered one by one, those who are people and
may still be emitted fill the feed. -/
namespace PeopleFeed.Feed

variable {σ τ : Type} {c : Collaborators σ} {sh : Shuffler τ} {rq : Request} {w : World}
  {d : Register} {At : σ → Ahead → Prop} {ahead : Ahead} {s t : State σ τ} {origin : Origin}
  {id : String}

/-- The stages from the drawn pool to the end. -/
def Stage.isFilling : Stage → Bool
  | .filling _ | .looking (.pool _) _ | .halted _ => true
  | _ => false

/-- What fills a feed goes on filling it, and the run is in no new state. -/
theorem filling_transition (h : Transition c sh rq s t) (hs : s.stage.isFilling = true) :
    t.stage.isFilling = true ∧ t.states = s.states := by
  cases h with
  | rested => exact ⟨hs, rfl⟩
  | faulted => exact ⟨rfl, rfl⟩
  | refused ho | passedOver ho | chosen ho =>
    cases ho with
    | stream hst => simp [hst, Stage.isFilling] at hs
    | pool => exact ⟨rfl, rfl⟩
  | @emitted origin _ _ hst | @skipped origin _ _ hst =>
    cases origin with
    | stream => simp [hst, Stage.isFilling] at hs
    | pool => exact ⟨rfl, rfl⟩
  | met hst => rcases hst with hst | hst <;> simp [hst, Stage.isFilling] at hs
  | finished => exact ⟨rfl, rfl⟩
  | _ hst => simp [hst, Stage.isFilling] at hs

theorem filling_run (c : Collaborators σ) (sh : Shuffler τ) (rq : Request)
    (hs : s.stage.isFilling = true) (n : Nat) :
    (run c sh rq n s).stage.isFilling = true ∧ (run c sh rq n s).states = s.states :=
  run_induction (P := fun t => t.stage.isFilling = true ∧ t.states = s.states)
    (fun _ _ h ht =>
      have hnext := filling_transition h ht.1
      ⟨hnext.1, hnext.2.trans ht.2⟩) ⟨hs, rfl⟩ n

/-- A looked up person is emitted, anybody else skipped. -/
theorem leads_looking (sh : Shuffler τ) (rq : Request) (hw : Plays c w At)
    (hfind : ∀ id, w.answer (.find id) = .ok (d.find id))
    (hs : s.stage = .looking origin id) (he : At s.env ahead) :
    ∃ t, Leads c sh rq s t ∧ t.stage = origin.next ∧ t.shuffler = s.shuffler ∧
      t.ledger = (if d.isPerson id then s.ledger.mark id else s.ledger) ∧ At t.env ahead := by
  obtain ⟨ha, hat⟩ := hw.answer (.find (some id)) _ _ (by simp) he
  rw [hfind] at ha
  have hstep : step c sh rq s = ((s.asked c (.find (some id))).settle rq.fieldNames origin.phase
      id (d.find (some id))).goto origin.next := step_of_found hs ha
  refine ⟨_, .of_step hstep, ?_⟩
  rcases hf : d.find (some id) with _ | ⟨_ | _, entityId, properties⟩ <;>
    simp [State.settle, State.goto, State.log, State.asked, Register.isPerson, hf, hat]

/-- A considered id is emitted if it may still be and stands for a person. -/
theorem leads_consider (sh : Shuffler τ) (rq : Request) (origin : Origin)
    (hw : Plays c w At)
    (hfind : ∀ id, w.answer (.find id) = .ok (d.find id)) (hid : id ≠ "")
    (he : At s.env ahead) :
    ∃ t, Leads c sh rq (s.consider origin id) t ∧ t.stage = origin.next ∧
      t.shuffler = s.shuffler ∧ At t.env ahead ∧
      t.ledger =
        if s.ledger.isEligible id && d.isPerson id then s.ledger.mark id else s.ledger := by
  cases hel : s.ledger.isEligible id with
  | false =>
    rw [State.consider_of_not_isEligible hid hel]
    exact ⟨_, .refl _, rfl, rfl, he, by simp [State.goto, State.log]⟩
  | true =>
    rw [State.consider_of_isEligible hid hel]
    obtain ⟨t, hlead, hst, hsh, hl, hat⟩ := leads_looking (s :=
      (s.log (.considered origin.phase)).goto (.looking origin id)) sh rq hw hfind rfl he
    exact ⟨t, hlead, hst, hsh, hat, by simpa [State.goto, State.log] using hl⟩

/-- Filling the feed from a drawn pool emits those who may be, in their order, up to the quota. -/
theorem leads_filling (sh : Shuffler τ) (hw : Plays c w At)
    (hfind : ∀ id, w.answer (.find id) = .ok (d.find id))
    (todo : List String) (hs : s.stage = .filling todo) (he : At s.env ahead)
    (hle : s.ledger.size ≤ rq.quota) (hnodup : todo.Nodup) (hnamed : "" ∉ todo) :
    ∃ t, Leads c sh rq s t ∧ t.stage = .halted none ∧
      t.ledger.processed = s.ledger.processed ++
        (todo.filter fun id => s.ledger.isEligible id && d.isPerson id).take
          (rq.quota - s.ledger.size) := by
  induction todo generalizing s with
  | nil =>
    have hstep : step c sh rq s = s.finishPool rq.requester := by simp [step, hs]
    exact ⟨_, .of_step hstep, rfl, by simp [State.finishPool, State.log, State.goto]⟩
  | cons id todo ih =>
    rcases hle.lt_or_eq with hq | hq
    · have hstep : step c sh rq s = s.consider (.pool todo) id := by simp [step, hs, hq]
      have hid : id ≠ "" := fun h => hnamed (h ▸ List.mem_cons_self)
      have hnamed' : "" ∉ todo := fun h => hnamed (List.mem_cons_of_mem _ h)
      obtain ⟨hnew, hnd⟩ := List.nodup_cons.1 hnodup
      obtain ⟨u, hlead, hst, -, hat, hl⟩ := leads_consider sh rq (.pool todo) hw hfind hid he
      cases hel : s.ledger.isEligible id && d.isPerson id with
      | false =>
        rw [hel, if_neg Bool.false_ne_true] at hl
        obtain ⟨t, hlead', hst', ht⟩ := ih hst hat (hl ▸ hle) hnd hnamed'
        refine ⟨t, (Leads.of_step hstep).trans (hlead.trans hlead'), hst', ?_⟩
        rw [ht, hl, List.filter_cons_of_neg (by simp [hel])]
      | true =>
        rw [hel, if_pos rfl] at hl
        obtain ⟨hel, hp⟩ := Bool.and_eq_true_iff.1 hel
        have hmark := hl.trans (Ledger.mark_of_isEligible hel)
        have hsize : u.ledger.size = s.ledger.size + 1 := by simp [hmark, Ledger.size]
        obtain ⟨t, hlead', hst', ht⟩ := ih hst hat (by omega) hnd hnamed'
        refine ⟨t, (Leads.of_step hstep).trans (hlead.trans hlead'), hst', ?_⟩
        -- Nobody is drawn twice, so that those behind may be emitted as before.
        have hrest := Register.filter_isEligible_mark (d := d) hel hnew
        rw [← hl] at hrest
        obtain ⟨room, hroom⟩ : ∃ room, rq.quota - s.ledger.size = room + 1 :=
          ⟨rq.quota - s.ledger.size - 1, by omega⟩
        have hroom' : rq.quota - (s.ledger.size + 1) = room := by omega
        rw [ht, hrest, hsize, hroom', hroom, List.filter_cons_of_pos (by simp [hel, hp]),
          List.take_succ_cons, hmark]
        simp
    · have hstep : step c sh rq s = s.finishPool rq.requester := by simp [step, hs, hq]
      refine ⟨_, .of_step hstep, rfl, ?_⟩
      simp [State.finishPool, State.log, State.goto, hq]

end PeopleFeed.Feed
