import PeopleFeed.Proofs.Feed.Run
import PeopleFeed.Proofs.Feed.World

/-! No feed holds too many records, a person twice, its requester or somebody connected. -/
namespace PeopleFeed.Feed

variable {σ τ : Type} {c : Collaborators σ} {sh : Shuffler τ} {rq : Request}
  {s t base : State σ τ} {origin : Origin} {id : String} {ids : List String}

namespace Ledger

variable {l : Ledger}

theorem mark_of_isEligible (h : l.isEligible id = true) :
    l.mark id = { l with processed := l.processed ++ [id] } := by
  have hid := (isEligible_iff.1 h).2.2
  simp [mark, hid]

end Ledger

/-- The stages that a run enters only while there is room in the feed. -/
def Stage.needsRoom : Stage → Bool
  | .looking .. | .drained | .resolving | .listing _ | .grouping _ | .gathering .. => true
  | _ => false

/-- The ledger tells exactly the records, and both stay within what is allowed. A candidate being
looked up is eligible and has room. -/
structure Sound (rq : Request) (s : State σ τ) : Prop where
  requester : s.ledger.requester = rq.requester
  targets : s.ledger.processed = s.records.map (·.target)
  nodup : s.ledger.processed.Nodup
  excluded : ∀ id ∈ s.ledger.processed, id ≠ rq.requester ∧ id ∉ s.ledger.connected
  size_le : s.ledger.size ≤ rq.quota
  room : s.stage.needsRoom = true → s.ledger.size < rq.quota
  eligible : ∀ origin id, s.stage = .looking origin id → s.ledger.isEligible id = true
  fresh : s.stage = .connecting → s.records = []

theorem Sound.size_eq (h : Sound rq s) : s.ledger.size = s.records.length := by
  rw [Ledger.size, h.targets, List.length_map]

theorem sound_initial (env : σ) (shuffler : τ) :
    Sound rq (.initial env shuffler rq.requester) := by
  constructor <;> simp [State.initial, Ledger.size, Stage.needsRoom]

/-- A step that leaves ledger and records alone has to see to its stage only. -/
theorem Sound.frame (h : Sound rq s) (hl : t.ledger = s.ledger) (hr : t.records = s.records)
    (hroom : t.stage.needsRoom = true → s.ledger.size < rq.quota)
    (hlook : ∀ origin id, t.stage = .looking origin id → s.ledger.isEligible id = true)
    (hc : t.stage ≠ .connecting) : Sound rq t where
  requester := by rw [hl, h.requester]
  targets := by rw [hl, hr, h.targets]
  nodup := by rw [hl]; exact h.nodup
  excluded := by rw [hl]; exact h.excluded
  size_le := by rw [hl]; exact h.size_le
  room := by rw [hl]; exact hroom
  eligible := by rw [hl]; exact hlook
  fresh hs := absurd hs hc

theorem Offer.ledger (h : Offer c rq s origin id base) : base.ledger = s.ledger := by
  cases h <;> rfl

theorem Offer.records (h : Offer c rq s origin id base) : base.records = s.records := by
  cases h <;> rfl

theorem Offer.room (h : Offer c rq s origin id base) : s.ledger.size < rq.quota := by
  cases h <;> assumption

@[simp] theorem Origin.next_needsRoom (origin : Origin) : origin.next.needsRoom = false := by
  cases origin <;> rfl

@[simp] theorem Origin.next_ne_looking (origin o : Origin) (id : String) :
    origin.next ≠ .looking o id := by
  cases origin <;> simp [Origin.next]

@[simp] theorem Origin.next_ne_connecting (origin : Origin) : origin.next ≠ .connecting := by
  cases origin <;> simp [Origin.next]

/-- Emitting an eligible candidate while there is room. -/
theorem Sound.emit (h : Sound rq s) (hs : s.stage = .looking origin id)
    (hl : t.ledger = s.ledger.mark id) {profile : Json.Fields}
    (hr : t.records = s.records ++ [⟨id, profile⟩]) (ht : t.stage = origin.next) :
    Sound rq t := by
  have hid := h.eligible origin id hs
  have hroom := h.room (by simp [hs, Stage.needsRoom])
  have hmark := Ledger.mark_of_isEligible hid
  obtain ⟨hne, hcon, hnew⟩ := Ledger.isEligible_iff.1 hid
  constructor
  · rw [hl, hmark, ← h.requester]
  · rw [hl, hmark, hr]
    simp [h.targets]
  · rw [hl]
    exact Ledger.nodup_processed_mark h.nodup
  · rw [hl]
    intro k hk
    rcases Ledger.mem_processed_mark.1 hk with hk | rfl
    · rw [hmark]
      exact h.excluded k hk
    · rw [hmark, ← h.requester]
      exact ⟨hne, hcon⟩
  · rw [hl, hmark]
    simpa [Ledger.size, Nat.succ_le_iff] using hroom
  · simp [ht]
  · simp [ht]
  · simp [ht]

theorem sound_transition (h : Transition c sh rq s t) (hs : Sound rq s) : Sound rq t := by
  cases h with
  | rested => exact hs
  | connected hst =>
    have hr := hs.fresh hst
    constructor <;> simp [State.asked, Ledger.size, Stage.needsRoom, hr]
  | refused ho =>
    refine hs.frame ho.ledger ho.records ?_ ?_ ?_ <;> simp [State.goto, Stage.needsRoom]
  | passedOver ho =>
    refine hs.frame ho.ledger ho.records ?_ ?_ ?_ <;> simp [State.goto]
  | chosen ho hid he =>
    refine hs.frame ho.ledger ho.records ?_ ?_ ?_
    · intro _
      exact ho.room
    · rintro o k ⟨⟩
      exact he
    · simp [State.goto]
  | emitted hst => exact hs.emit hst rfl rfl rfl
  | skipped => refine hs.frame rfl rfl ?_ ?_ ?_ <;> simp [State.goto]
  | turned hst hq | dried hst hq => refine hs.frame rfl rfl ?_ ?_ ?_ <;> simp [State.goto, hq]
  | listed hst =>
    have hq := hs.room (by simp [hst, Stage.needsRoom])
    unfold State.startGroups
    split <;> refine hs.frame rfl rfl ?_ ?_ ?_ <;> simp [State.goto, hq]
  | resolved hst | gathered hst =>
    have hq := hs.room (by simp [hst, Stage.needsRoom])
    refine hs.frame rfl rfl ?_ ?_ ?_ <;> simp [State.goto, hq]
  | grouped hst hq | ungrouped hst hq =>
    refine hs.frame rfl rfl ?_ ?_ ?_ <;> simp [State.goto, hq]
  | _ =>
    refine hs.frame rfl rfl ?_ ?_ ?_ <;>
      simp [State.goto, State.draw, State.finishPool, Stage.needsRoom]

theorem sound_run (c : Collaborators σ) (sh : Shuffler τ) (rq : Request) (env : σ)
    (shuffler : τ) (n : Nat) : Sound rq (run c sh rq n (.initial env shuffler rq.requester)) :=
  run_induction (fun _ _ h hs => sound_transition h hs) (sound_initial env shuffler) n

theorem connected_mark (l : Ledger) (id : String) : (l.mark id).connected = l.connected := by
  unfold Ledger.mark
  split <;> rfl

/-- The connections are asked for once, and what was told stays. -/
theorem connected_transition (h : Transition c sh rq s t) (hs : s.stage ≠ .connecting) :
    t.stage ≠ .connecting ∧ t.ledger.connected = s.ledger.connected := by
  cases h with
  | rested => exact ⟨hs, rfl⟩
  | connected hst => exact absurd hst hs
  | refused ho => exact ⟨by simp [State.goto], congrArg Ledger.connected ho.ledger⟩
  | passedOver ho => exact ⟨by simp [State.goto], congrArg Ledger.connected ho.ledger⟩
  | chosen ho => exact ⟨by simp [State.goto], congrArg Ledger.connected ho.ledger⟩
  | emitted => exact ⟨by simp, connected_mark ..⟩
  | listed =>
    unfold State.startGroups
    split <;> exact ⟨by simp [State.goto], rfl⟩
  | _ => exact ⟨by simp [State.goto, State.draw, State.finishPool], rfl⟩

theorem connected_run {env : σ} {shuffler : τ}
    (ha : (c.respond (.connected rq.requester) env).answer = .ok ids) (n : Nat) :
    (run c sh rq (n + 1) (.initial env shuffler rq.requester)).ledger.connected = ids := by
  have hstep : (step c sh rq (.initial env shuffler rq.requester)).stage ≠ .connecting ∧
      (step c sh rq (.initial env shuffler rq.requester)).ledger.connected = ids := by
    simp [step, State.initial, State.ask, ha]
  rw [run_succ]
  exact (run_induction (P := fun s => s.stage ≠ .connecting ∧ s.ledger.connected = ids)
    (fun s t h hs =>
      have ht := connected_transition h hs.1
      ⟨ht.1, ht.2.trans hs.2⟩) hstep n).2

/-- Whoever has a record may have one, if the connections were told. -/
theorem notMem_connected_of_mem_records {env : σ} {shuffler : τ}
    (ha : (c.respond (.connected rq.requester) env).answer = .ok ids) (n : Nat) :
    ∀ id ∈ (run c sh rq n (.initial env shuffler rq.requester)).records.map (·.target),
      id ∉ ids := by
  have hs := sound_run c sh rq env shuffler n
  cases n with
  | zero => simp [run, runTo, State.initial]
  | succ n =>
    intro id hid
    rw [← connected_run ha n]
    exact (hs.excluded id (hs.targets ▸ hid)).2

section

variable {p : Policy} {quota : Count} {o : Order}

/-- At every point of a run the ledger holds exactly the targets of the records, each once and
never more than the quota. So a feed, cut short or not, has at most as many records as its quota,
nobody twice, not its requester, and nobody connected. -/
theorem feed_safe (c : Collaborators σ) (sh : Shuffler τ) (fieldNames : List String)
    (env : σ) (shuffler : τ) (h : o.check p = .ok quota) :
    (∀ n, let s := o.run c sh fieldNames quota n env shuffler
      (∀ id, id ∈ s.ledger.processed ↔ id ∈ s.records.map (·.target)) ∧
        s.ledger.processed.Nodup ∧ s.ledger.size = s.records.length ∧
        s.ledger.size ≤ quota.toNat) ∧
    ∀ fuel r, (assemble c sh p fieldNames fuel o env shuffler).result = .ok r →
      r.records.length ≤ quota.toNat ∧ r.targets.Nodup ∧ o.requester ∉ r.targets ∧
        ∀ ids, (c.respond (.connected o.requester) env).answer = .ok ids →
          ∀ target ∈ r.targets, target ∉ ids := by
  have hsound (n : Nat) : Sound (o.request quota fieldNames)
      (o.run c sh fieldNames quota n env shuffler) :=
    sound_run c sh (o.request quota fieldNames) env shuffler n
  have hsize (n : Nat) : (o.run c sh fieldNames quota n env shuffler).ledger.size =
      (o.run c sh fieldNames quota n env shuffler).records.length := by
    simp [Ledger.size, (hsound n).targets]
  constructor
  · intro n
    refine ⟨fun id => ?_, (hsound n).nodup, hsize n, (hsound n).size_le⟩
    rw [(hsound n).targets]
  · intro fuel r hr
    obtain ⟨denied, -, rfl⟩ := (assemble_eq_ok_iff h).1 hr
    have hs := hsound fuel
    refine ⟨hsize fuel ▸ hs.size_le, ?_, ?_, ?_⟩
    · have hnodup := hs.nodup
      rw [hs.targets] at hnodup
      exact hnodup
    · intro hmem
      exact (hs.excluded o.requester (hs.targets ▸ hmem)).1 rfl
    · intro ids ha
      exact notMem_connected_of_mem_records ha fuel

/-- A choir: Ann sings with Bob, Dan and Eve. Its list of members has gaps. -/
def choir : Register where
  find
    | some "choir" => some ⟨.group, "choir", []⟩
    | some "ann" => some ⟨.profile, "ann", []⟩
    | some "bob" => some ⟨.profile, "bob", []⟩
    | some "dan" => some ⟨.profile, "dan", []⟩
    | some "eve" => some ⟨.profile, "eve", []⟩
    | _ => none
  principals _ := [none, some "choir"]
  members _ := [some "eve", none, some "bob", some "ann", some "", some "dan"]

/-- What Ann finds: Bob twice, herself, her friend Cat, somebody unknown and a page. -/
def choirStream : List Search.Candidate :=
  [⟨some "sakai/contact", "/a/bob", []⟩, ⟨some "authorizable", "ann", []⟩,
    ⟨some "sakai/contact", "/b/bob", []⟩, ⟨some "authorizable", "cat", []⟩,
    ⟨some "authorizable", "zoe", []⟩, ⟨some "sakai/page", "/home", []⟩]

/-- The choir as a world. -/
def choirWorld : World :=
  .calm (fun _ => choirStream) (fun _ => ["cat"]) choir

/-- What becomes of an order of Ann's for so many people. -/
def choirOutcome (n : Nat) : Outcome Ahead Unit :=
  assemble choirWorld.collaborators .reverse .standard publicFieldNames 40
    ⟨"ann", [], some (.int n)⟩ (fun _ => .ok none) ()

/-- What Ann sees of somebody in the choir. -/
def choirRecord (id : String) : Record :=
  ⟨id, [("userid", .str id)]⟩

theorem check_three :
    (⟨"ann", [], some (.int 3)⟩ : Order).check .standard = .ok (.number 3) := by
  cbv

theorem choirOutcome_three :
    (choirOutcome 3).result = .ok
      { requester := "ann"
        quota := .number 3
        records := [choirRecord "bob", choirRecord "eve", choirRecord "dan"]
        states := [.consumingPrimary, .consumingFallback, .done]
        denied := none
        shortfall := true } := by
  cbv

/-- An order of four falls short by one. -/
theorem choirOutcome_four :
    (choirOutcome 4).result = .ok
      { requester := "ann"
        quota := .number 4
        records := [choirRecord "bob", choirRecord "eve", choirRecord "dan"]
        states := [.consumingPrimary, .consumingFallback, .done]
        denied := none
        shortfall := true } := by
  cbv

/-- Ann's feed of three holds three people whom she may be shown. -/
theorem feed_safe_choir :
    (⟨"ann", [], some (.int 3)⟩ : Order).check .standard = .ok (.number 3) ∧
      ∃ r, (choirOutcome 3).result = .ok r ∧ r.targets = ["bob", "eve", "dan"] ∧
        r.records.length ≤ 3 ∧ r.targets.Nodup ∧ "ann" ∉ r.targets ∧
        ∀ target ∈ r.targets, target ∉ ["cat"] := by
  obtain ⟨hlen, hnodup, hself, hcon⟩ :=
    (feed_safe choirWorld.collaborators .reverse publicFieldNames (fun _ => .ok none) ()
      check_three).2
      40 _ choirOutcome_three
  exact ⟨check_three, _, choirOutcome_three, rfl, hlen, hnodup, hself, hcon ["cat"] rfl⟩

end

end PeopleFeed.Feed
